import TaggedUnion.Text.Bytes

/-!
# Quoted strings

Double-quoted string literals: `quote` writes a text as one, and `unquote?` reads one back. A text may
also be read from the raw form, between back quotes, in which nothing is escaped. Struct tags are
texts of `key:"value"` pairs; `tagValue?` looks a key up.
-/

namespace TaggedUnion.Text

/-- Lower case hexadecimal digits of `n`, at least `width` of them. -/
def hexDigits (width n : Nat) : String :=
  let ds := Nat.toDigits 16 n
  String.ofList (List.replicate (width - ds.length) '0' ++ ds)

/-- A character by a letter or by its number after a backslash. -/
def escapeChar (c : Char) : String :=
  match c.toNat with
  | 0x07 => "\\a"
  | 0x08 => "\\b"
  | 0x0c => "\\f"
  | 0x0a => "\\n"
  | 0x0d => "\\r"
  | 0x09 => "\\t"
  | 0x0b => "\\v"
  | n =>
    if n < 0x20 || n == 0x7f then "\\x" ++ hexDigits 2 n
    else if n < 0x10000 then "\\u" ++ hexDigits 4 n
    else "\\U" ++ hexDigits 8 n

/-- How a character appears between quotes, if those that are `shown` appear as themselves. -/
def quoteCharBy (shown : Char → Bool) (mark c : Char) : String :=
  if c == mark || c == '\\' then String.ofList ['\\', c]
  else if shown c then String.singleton c
  else escapeChar c

/-- How a character appears between double quotes. -/
def quoteChar (c : Char) : String :=
  quoteCharBy isPrintable '"' c

/-- A text as a double-quoted literal. -/
def quote (s : String) : String :=
  "\"" ++ String.join (s.toList.map quoteChar) ++ "\""

/-- A byte string as a double-quoted literal; stray bytes are given by number. -/
def quoteBytes (bs : Bytes) : String :=
  "\"" ++ String.join (bs.glyphs.map fun
    | .char c => quoteChar c
    | .stray b => "\\x" ++ hexDigits 2 b.toNat) ++ "\""

/-- A list of texts, each quoted, in square brackets. -/
def quoteList (xs : List String) : String :=
  "[" ++ " ".intercalate (xs.map quote) ++ "]"

/-! ## Reading literals -/

/-- The value of a hexadecimal digit. -/
def hexValue? (c : Char) : Option Nat :=
  if c.isDigit then some (c.toNat - '0'.toNat)
  else if 'a' ≤ c && c ≤ 'f' then some (c.toNat - 'a'.toNat + 10)
  else if 'A' ≤ c && c ≤ 'F' then some (c.toNat - 'A'.toNat + 10)
  else none

/-- The value of a digit in the given base. -/
def digitValue? (base : Nat) (c : Char) : Option Nat :=
  (hexValue? c).filter (· < base)

/-- The number that a list of digits spells in the given base. -/
def ofDigits? (base : Nat) (ds : List Char) : Option Nat :=
  ds.foldl (fun acc c => do return (← acc) * base + (← digitValue? base c)) (some 0)

/-- A piece of a decoded literal: a character, or a byte given by number. -/
inductive LiteralUnit
  | char (c : Char)
  | byte (b : UInt8)

namespace LiteralUnit

/-- The bytes a piece stands for. -/
def bytes : LiteralUnit → Bytes
  | char c => Bytes.ofChar c
  | byte b => [b]

/-- The number a piece stands for in a character literal. -/
def value : LiteralUnit → Nat
  | char c => c.toNat
  | byte b => b.toNat

end LiteralUnit

/-- The escapes of one letter that may follow a backslash, besides the closing quote. -/
def simpleEscapes : List (Char × Nat) :=
  [('a', 0x07), ('b', 0x08), ('f', 0x0c), ('n', 0x0a), ('r', 0x0d), ('t', 0x09), ('v', 0x0b),
   ('\\', 0x5c)]

/-- How many digits follow a numeric escape that starts with the given letter. -/
def hexEscape? (c : Char) : Option Nat :=
  match c with
  | 'x' => some 2
  | 'u' => some 4
  | 'U' => some 8
  | _ => none

/-- Whether a number is that of a character. -/
def isCharNumber (n : Nat) : Bool :=
  n < 0xd800 || (0xdfff < n && n < 0x110000)

/-- Reads what follows a backslash: the letter and the text after it. -/
def escape? (quote c : Char) (rest : List Char) : Option (LiteralUnit × List Char) :=
  if c == quote then some (.char c, rest)
  else match simpleEscapes.lookup c with
  | some n => some (.char (Char.ofNat n), rest)
  | none =>
    match hexEscape? c with
    | some n => do
      let value ← ofDigits? 16 (rest.take n)
      guard (n ≤ rest.length)
      if n == 2 then return (.byte value.toUInt8, rest.drop n)
      guard (isCharNumber value)
      return (.char (Char.ofNat value), rest.drop n)
    | none => do
      let value ← ofDigits? 8 (c :: rest.take 2)
      guard (2 ≤ rest.length && value < 256)
      return (.byte value.toUInt8, rest.drop 2)

/-- Reads the first piece of what stands between the quotes of a literal. -/
def unit? (quote : Char) : List Char → Option (LiteralUnit × List Char)
  | [] => none
  | '\\' :: c :: rest => escape? quote c rest
  | c :: rest => if c == '\\' || c == quote || c == '\n' then none else some (.char c, rest)

/-- Decodes what stands between the quotes of a literal with at most `fuel` pieces. -/
def unitsFrom (quote : Char) : Nat → List Char → Option (List LiteralUnit)
  | _, [] => some []
  | 0, _ => none
  | fuel + 1, cs => do
    let (u, rest) ← unit? quote cs
    return u :: (← unitsFrom quote fuel rest)

/-- Decodes what stands between the quotes of a literal; every piece takes up a character. -/
def units? (quote : Char) (cs : List Char) : Option (List LiteralUnit) :=
  unitsFrom quote cs.length cs

/-- The bytes that stand between double quotes. -/
def decode? (cs : List Char) : Option Bytes :=
  (units? '"' cs).map fun us => us.flatMap LiteralUnit.bytes

/-- Reads a double-quoted or back-quoted literal. -/
def unquote? (literal : String) : Option Bytes :=
  match literal.toList with
  | '"' :: rest => if rest.getLast? == some '"' then decode? rest.dropLast else none
  | '\x60' :: rest =>
    if rest.getLast? == some '\x60' && !rest.dropLast.contains '\x60' then
      some (Bytes.ofText (String.ofList (rest.dropLast.filter (· != '\r'))))
    else none
  | _ => none

/-- The number of a character literal. -/
def runeValue? (literal : String) : Option Nat :=
  match literal.toList with
  | '\'' :: rest =>
    if rest.getLast? == some '\'' then
      match units? '\'' rest.dropLast with
      | some [u] => some u.value
      | _ => none
    else none
  | _ => none

/-! ## Struct tags -/

/-- Characters of the key of a tag pair. -/
def isTagKeyChar (c : Char) : Bool :=
  ' ' < c && c != ':' && c != '"' && c.toNat != 0x7f

/-- Splits a text that follows an opening double quote at the closing one, minding backslashes. -/
def splitQuoted : List Char → Option (List Char × List Char)
  | [] => none
  | '"' :: rest => some ([], rest)
  | '\\' :: c :: rest => (splitQuoted rest).map fun (a, b) => ('\\' :: c :: a, b)
  | c :: rest => (splitQuoted rest).map fun (a, b) => (c :: a, b)

theorem splitQuoted_length {cs a b : List Char} (h : splitQuoted cs = some (a, b)) :
    b.length < cs.length := by
  fun_induction splitQuoted cs generalizing a b with
  | case1 => simp at h
  | case2 rest => simp at h; simp [h.2]
  | case3 c rest ih =>
    obtain ⟨⟨a', b'⟩, h', he⟩ := Option.map_eq_some_iff.1 h
    have := ih h'
    simp at he
    simp [← he.2]; omega
  | case4 c rest _ _ ih =>
    obtain ⟨⟨a', b'⟩, h', he⟩ := Option.map_eq_some_iff.1 h
    have := ih h'
    simp at he
    simp [← he.2]; omega

/-- The value of the first pair with the given key, in a tag whose stray bytes are replaced. Reading stops
at the first text that is not a `key:"value"` pair, and a value that is no valid literal ends the
search as well. -/
def tagValueFrom (key : List Char) (tag : List Char) : Option Bytes :=
  let tag' := tag.dropWhile (· == ' ')
  let name := tag'.takeWhile isTagKeyChar
  match _hrest : tag'.dropWhile isTagKeyChar with
  | ':' :: '"' :: rest =>
    if name.isEmpty then none
    else match _hq : splitQuoted rest with
      | none => none
      | some (value, rest') =>
        if name == key then decode? value
        else tagValueFrom key rest'
  | _ => none
termination_by tag.length
decreasing_by
  have h1 := (List.dropWhile_sublist (· == ' ') (l := tag)).length_le
  have h2 := (List.dropWhile_sublist isTagKeyChar (l := tag')).length_le
  have h3 := splitQuoted_length _hq
  rw [_hrest] at h2
  simp only [tag', List.length_cons] at h2
  omega

/-- The value a struct tag gives to a key, if any. -/
def tagValue? (key : String) (tag : Bytes) : Option Bytes :=
  tagValueFrom key.toList tag.text.toList

end TaggedUnion.Text
