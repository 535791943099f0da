import TaggedUnion.Text.Quoted

/-!
# Verbs

A *verb* is a letter that says how an argument of a template is written, together with flags, a width and
a precision. Here are the verbs for texts and for numbers: a text is written as it is, quoted, or byte
by byte, a number in one of four bases or as the character it stands for. A verb that does not fit
its argument shows as such, with the sort of the argument and its plain form.
-/

namespace TaggedUnion.Text

/-! ## Flags -/

/-- What a verb says about the form of its argument. -/
structure Flags where
  plus : Bool := false
  minus : Bool := false
  sharp : Bool := false
  space : Bool := false
  zero : Bool := false
  width : Option Nat := none
  precision : Option Nat := none
  /-- Whether parts are shown with their names. -/
  named : Bool := false
  /-- Whether values are shown as literals of source code. -/
  literal : Bool := false
deriving Repr, DecidableEq

namespace Flags

/-- Sets the flag of a character. -/
def set (f : Flags) : Char → Option Flags
  | '+' => some { f with plus := true }
  | '-' => some { f with minus := true }
  | '#' => some { f with sharp := true }
  | ' ' => some { f with space := true }
  | '0' => some { f with zero := true }
  | _ => none

/-- The flags as a verb takes them: for plain forms two of them have meanings of their own. -/
def forVerb (f : Flags) (verb : Char) : Flags :=
  if verb == 'v' || verb == 'w' then
    { f with plus := false, named := f.plus, sharp := false, literal := f.sharp }
  else f

end Flags

/-- Pads a text to the width, with blanks on the left unless the flags say otherwise. -/
def pad (f : Flags) (s : String) : String :=
  match f.width with
  | none => s
  | some w =>
    let fill := fun c => String.ofList (List.replicate (w - s.length) c)
    if f.minus then s ++ fill ' ' else fill (if f.zero then '0' else ' ') ++ s

/-- Pads a text with blanks. -/
def padBlank (f : Flags) (s : String) : String :=
  pad { f with zero := false } s

/-- A verb that does not fit its argument, of which the sort and the text are shown. -/
def misfit (verb : Char) (sort value : String) : String :=
  "%!" ++ String.singleton verb ++ "(" ++ sort ++ "=" ++ value ++ ")"

/-- Nothing at all by a verb: only two verbs fit it. -/
def writeNothing (f : Flags) (verb : Char) : String :=
  if verb == 'v' || verb == 'T' then pad f "<nil>" else "%!" ++ String.singleton verb ++ "(<nil>)"

/-! ## Texts -/

/-- The bytes of a text in hexadecimal digits. -/
def hexText (f : Flags) (upper : Bool) (s : String) : String :=
  let bytes := s.toUTF8.toList
  let bytes := match f.precision with
    | some p => bytes.take p
    | none => bytes
  let mark := if f.sharp then "0x" else ""
  let digits := bytes.map fun b => hexDigits 2 b.toNat
  let text := if digits.isEmpty then ""
    else if f.space then " ".intercalate (digits.map (mark ++ ·))
    else mark ++ String.join digits
  if upper then text.toUpper else text

/-- A text cut to the precision. -/
def truncated (f : Flags) (s : String) : String :=
  match f.precision with
  | some p => String.ofList (s.toList.take p)
  | none => s

/-- Characters that may stand between back quotes on one line. -/
def isRawChar (c : Char) : Bool :=
  (c == '\t' || ' ' ≤ c) && c != '\x60' && c != '\x7f' && c.toNat != 0xfeff

/-- Characters that show as themselves in quotes that hold nothing but ASCII. -/
def isPlainChar (c : Char) : Bool :=
  c.toNat < 128 && isPrintable c

/-- Which characters show as themselves between quotes. -/
def shownChars (f : Flags) : Char → Bool :=
  if f.plus then isPlainChar else isPrintable

/-- A text between quotes, raw if that is asked for and possible. -/
def quotedText (f : Flags) (s : String) : String :=
  if f.sharp && s.toList.all isRawChar then "\x60" ++ s ++ "\x60"
  else "\"" ++ String.join (s.toList.map (quoteCharBy (shownChars f) '"')) ++ "\""

/-- A text by one of the verbs for texts. -/
def text? (f : Flags) (verb : Char) (s : String) : Option String :=
  let plain := pad f (truncated f s)
  let quoted := pad f (quotedText f (truncated f s))
  match verb with
  | 's' => some plain
  | 'v' => some (if f.literal then quoted else plain)
  | 'q' => some quoted
  | 'x' => some (pad f (hexText f false s))
  | 'X' => some (pad f (hexText f true s))
  | _ => none

/-- A text by a verb. -/
def writeText (f : Flags) (verb : Char) (s : String) : String :=
  (text? f verb s).getD (misfit verb "string" ((text? f 'v' s).getD ""))

/-! ## Numbers -/

/-- The sign of a number. -/
def signText (f : Flags) (n : Int) : String :=
  if n < 0 then "-" else if f.plus then "+" else if f.space then " " else ""

/-- How many digits a number has at least: as the precision says, or as many as fill the width. -/
def leastDigits (f : Flags) (n : Int) : Nat :=
  match f.precision, f.width with
  | some p, _ => p
  | none, some w => if f.zero && !f.minus then w - (signText f n).length else 0
  | none, none => 0

/-- A number in a base, after a sign and a mark of the base, which may depend on the digits. Nothing is
left of zero if no digits are asked for. -/
def integer (f : Flags) (base : Nat) (mark : List Char → String) (n : Int) : String :=
  if f.precision == some 0 && n == 0 then padBlank f ""
  else
    let digits := Nat.toDigits base n.natAbs
    let digits := List.replicate (leastDigits f n - digits.length) '0' ++ digits
    padBlank f (signText f n ++ mark digits ++ String.ofList digits)

/-- The mark of octal numbers: a zero, unless there is one. -/
def octalMark (f : Flags) (digits : List Char) : String :=
  if f.sharp && digits.head? != some '0' then "0" else ""

/-- The character of a number; numbers that have none show as a replacement. -/
def character (n : Int) : Char :=
  if n < 0 || !Nat.isValidChar n.toNat then Char.ofNat 0xfffd else Char.ofNat n.toNat

/-- The character of a number between single quotes. -/
def quotedCharacter (f : Flags) (n : Int) : String :=
  "'" ++ quoteCharBy (shownChars f) '\'' (character n) ++ "'"

/-- The number of values of a word of 64 bits. -/
def wordLimit : Int := 18446744073709551616

/-- A number as that of a character, in 64 bits, and on demand the character too. -/
def codePoint (f : Flags) (n : Int) : String :=
  let u := (n % wordLimit).toNat
  let digits := (hexDigits (max 4 (f.precision.getD 0)) u).toUpper
  let shown := f.sharp && u.isValidChar && isPrintable (Char.ofNat u)
  "U+" ++ digits ++ if shown then " '" ++ String.singleton (Char.ofNat u) ++ "'" else ""

/-- A number by one of the verbs for numbers. -/
def integer? (f : Flags) (verb : Char) (n : Int) : Option String :=
  let mark := fun (m : String) (_ : List Char) => if f.sharp then m else ""
  match verb with
  | 'v' | 'd' => some (integer f 10 (fun _ => "") n)
  | 'b' => some (integer f 2 (mark "0b") n)
  | 'o' => some (integer f 8 (octalMark f) n)
  | 'O' => some (integer f 8 (fun digits => "0o" ++ octalMark f digits) n)
  | 'x' => some (integer f 16 (mark "0x") n)
  | 'X' => some (integer f 16 (mark "0x") n).toUpper
  | 'c' => some (pad f (String.singleton (character n)))
  | 'q' => some (pad f (quotedCharacter f n))
  | 'U' => some (padBlank f (codePoint f n))
  | _ => none

/-- A number of some sort by a verb. -/
def writeNumber (f : Flags) (verb : Char) (sort : String) (n : Int) : String :=
  (integer? f verb n).getD (misfit verb sort ((integer? f 'v' n).getD ""))

end TaggedUnion.Text
