import TaggedUnion.Text.Quoted

/-!
# Lexemes

A source text is cut into lexemes: blanks, line ends, words, literals, comments and symbols. Each
lexeme is the longest one that the text starts with, and together they spell the text
(`cut?_text`). Cutting fails at a text that starts with no lexeme, such as an unclosed literal.
-/

namespace TaggedUnion.Source

open Text

/-- What sort of text a lexeme is. -/
inductive LexemeKind
  | blank
  | lineEnd
  | word
  | int
  | float
  | imaginary
  | rune
  | quoted
  | raw
  | lineComment
  | blockComment
  | symbol
deriving Repr, DecidableEq

/-- A lexeme with its text. -/
structure Lexeme where
  kind : LexemeKind
  text : List Char
deriving Repr, DecidableEq

/-- Symbols, longer ones before those they start with. -/
def symbols : List (List Char) :=
  ["<<=", ">>=", "&^=", "...", "&&", "||", "<-", "++", "--", "==", "!=", "<=", ">=", ":=", "+=", "-=",
   "*=", "/=", "%=", "&=", "|=", "^=", "<<", ">>", "&^", "+", "-", "*", "/", "%", "&", "|", "^", "<",
   ">", "=", "!", "(", ")", "[", "]", "\x7b", "\x7d", ",", ";", ".", ":", "~"].map String.toList

/-- The length of the text up to and including the first character that ends it; a backslash takes
the character after it along, and a line end is refused. -/
def quotedLength? (quote : Char) : List Char → Option Nat
  | [] => none
  | '\\' :: c :: rest => if c == '\n' then none else (quotedLength? quote rest).map (· + 2)
  | c :: rest =>
    if c == '\n' then none
    else if c == quote then some 1
    else (quotedLength? quote rest).map (· + 1)

/-- The length of the text up to and including the first `*/`. -/
def blockLength? : List Char → Option Nat
  | [] => none
  | '*' :: '/' :: _ => some 2
  | _ :: rest => (blockLength? rest).map (· + 1)

/-! ## Numbers -/

/-- The digits and separators of a number with the given base; a base of at most ten takes all
decimal digits. -/
def isNumberChar (base : Nat) (c : Char) : Bool :=
  c == '_' || (if base == 16 then (hexValue? c).isSome else c.isDigit)

/-- The parts of a number: the base, the mark of the base, the digits before and after the point, the
exponent without its letter, and what follows. The point, the exponent and a final `i` may be
missing. -/
structure NumberParts where
  base : Nat := 10
  mark : List Char := []
  whole : List Char := []
  fraction : Option (List Char) := none
  exponent : Option (Char × List Char) := none
  imaginary : Bool := false
deriving Repr, DecidableEq

/-- The mark of a base at the front of a number; a zero that marks octal digits is one of them. -/
def baseMark : List Char → List Char × Nat
  | '0' :: c :: _ =>
    if c == 'x' || c == 'X' then (['0', c], 16)
    else if c == 'o' || c == 'O' then (['0', c], 8)
    else if c == 'b' || c == 'B' then (['0', c], 2)
    else ([], 10)
  | _ => ([], 10)

/-- Reads the exponent of a number: a letter, a sign and digits. -/
def readExponent : List Char → Option (Char × List Char) × List Char
  | [] => (none, [])
  | c :: rest =>
    if ['e', 'E', 'p', 'P'].contains c then
      let sign := match rest with
        | s :: _ => if s == '+' || s == '-' then [s] else []
        | [] => []
      let after := rest.drop sign.length
      (some (c, sign ++ after.takeWhile (isNumberChar 10)), after.dropWhile (isNumberChar 10))
    else (none, c :: rest)

/-- Reads a number from the front of a text that starts with one. -/
def NumberParts.read (cs : List Char) : NumberParts × List Char :=
  let (mark, base) := baseMark cs
  let cs := cs.drop mark.length
  let whole := cs.takeWhile (isNumberChar base)
  let (fraction, cs) := match cs.dropWhile (isNumberChar base) with
    | '.' :: rest => (some (rest.takeWhile (isNumberChar base)), rest.dropWhile (isNumberChar base))
    | rest => (none, rest)
  let (exponent, cs) := readExponent cs
  match cs with
  | 'i' :: rest => ({ base, mark, whole, fraction, exponent, imaginary := true }, rest)
  | cs => ({ base, mark, whole, fraction, exponent }, cs)

namespace NumberParts

/-- What kind of literal a number is. -/
def kind (p : NumberParts) : LexemeKind :=
  if p.imaginary then .imaginary
  else if p.fraction.isSome || p.exponent.isSome then .float
  else .int

/-- The number of characters of a number. -/
def size (p : NumberParts) : Nat :=
  p.mark.length + p.whole.length + ((p.fraction.map (·.length + 1)).getD 0) +
    ((p.exponent.map (·.2.length + 1)).getD 0) + (if p.imaginary then 1 else 0)

/-- Separators stand between digits only; the mark of a base counts as a digit. `after` says whether a
digit comes right before. -/
def separated (isDigit : Char → Bool) (after : Bool) : List Char → Bool
  | [] => true
  | '_' :: rest =>
    after && ((rest.head?.map isDigit).getD false) && separated isDigit false rest
  | c :: rest => separated isDigit (isDigit c) rest

/-- Whether a number keeps the rules: there are digits, each one is a digit of the base, and a
fraction or an exponent fits the base. -/
def isValid (p : NumberParts) : Bool :=
  let digits := p.whole ++ p.fraction.getD []
  let octal := p.mark.isEmpty && p.kind == .int && p.whole.head? == some '0'
  let base := if octal then 8 else p.base
  let exponentFits := match p.exponent with
    | some (c, ds) =>
      ds.any Char.isDigit &&
        (if p.base == 16 then c == 'p' || c == 'P' else p.base == 10 && (c == 'e' || c == 'E'))
    | none => !(p.base == 16 && p.fraction.isSome)
  let inBase := p.kind != .int ||
    p.whole.all fun c => c == '_' || (digitValue? base c).isSome
  digits.any (· != '_') && exponentFits && inBase &&
    !(p.fraction.isSome && (p.base == 8 || p.base == 2)) &&
    separated (fun c => (digitValue? p.base c).isSome || c.isDigit) (!p.mark.isEmpty) p.whole &&
    separated (fun c => (digitValue? p.base c).isSome || c.isDigit) false (p.fraction.getD []) &&
    separated Char.isDigit false ((p.exponent.map (·.2)).getD [])

end NumberParts

/-- The kind and the length of the number at the front of a text that starts with one. -/
def number? (cs : List Char) : Option (LexemeKind × Nat) :=
  let parts := (NumberParts.read cs).1
  if parts.isValid then some (parts.kind, parts.size) else none

/-! ## Cutting -/

/-- The kind and the length of the lexeme at the front of a text. -/
def front? (cs : List Char) : Option (LexemeKind × Nat) :=
  match cs with
  | [] => none
  | '\n' :: _ => some (.lineEnd, 1)
  | '/' :: '/' :: rest => some (.lineComment, 2 + (rest.takeWhile (· != '\n')).length)
  | '/' :: '*' :: rest => (blockLength? rest).map fun n => (.blockComment, n + 2)
  | c :: rest =>
    if c == ' ' || c == '\t' || c == '\r' then some (.blank, 1)
    else if isIdentStart c then some (.word, 1 + (rest.takeWhile isIdentPart).length)
    else if c.isDigit || (c == '.' && (rest.head?.map Char.isDigit).getD false) then number? cs
    else if c == '"' then do
      let n ← quotedLength? '"' rest
      let _ ← units? '"' (rest.take (n - 1))
      return (.quoted, n + 1)
    else if c == '\'' then do
      let n ← quotedLength? '\'' rest
      guard (((units? '\'' (rest.take (n - 1))).map (·.length)) == some 1)
      return (.rune, n + 1)
    else if c == '\x60' then
      let n := (rest.takeWhile (· != '\x60')).length
      if n < rest.length then some (.raw, n + 2) else none
    else (symbols.find? (·.isPrefixOf cs)).map fun s => (.symbol, s.length)

/-- Cuts a text into lexemes. -/
def cut? (cs : List Char) : Option (List Lexeme) :=
  match cs with
  | [] => some []
  | c :: rest =>
    match front? (c :: rest) with
    | none => none
    | some (kind, n) =>
      (cut? (rest.drop (n - 1))).map (⟨kind, c :: rest.take (n - 1)⟩ :: ·)
termination_by cs.length
decreasing_by simp only [List.length_drop, List.length_cons]; omega

/-- Lexemes spell the text they are cut from. -/
theorem cut?_text {cs : List Char} {ls : List Lexeme} (h : cut? cs = some ls) :
    ls.flatMap (·.text) = cs := by
  fun_induction cut? cs generalizing ls with
  | case1 => simp_all
  | case2 => simp at h
  | case3 c rest kind n hf ih =>
    obtain ⟨ls', h', rfl⟩ := Option.map_eq_some_iff.1 h
    simp [ih h']

end TaggedUnion.Source
