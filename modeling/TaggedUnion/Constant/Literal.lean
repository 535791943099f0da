import TaggedUnion.Constant.Value
import TaggedUnion.Source.Token

/-!
# Literals

The constants that literals spell. Numbers have a base, perhaps a fraction and perhaps an exponent, which
is one of ten, or of two after hexadecimal digits. Separators between digits make no difference. A number
whose exponent is large is rounded.
-/

namespace TaggedUnion.Constant

open Source Text

/-- The number that digits with separators spell. -/
def digitsValue? (base : Nat) (ds : List Char) : Option Nat :=
  ofDigits? base (ds.filter (· != '_'))

/-- The number that an exponent spells. -/
def exponentValue? : List Char → Option Int
  | '-' :: ds => (digitsValue? 10 ds).map fun n => -(n : Int)
  | '+' :: ds => (digitsValue? 10 ds).map Int.ofNat
  | ds => (digitsValue? 10 ds).map Int.ofNat

/-- A power with an integer exponent. -/
def power (base : Nat) (exponent : Int) : Rat :=
  if 0 ≤ exponent then ((Nat.pow base exponent.toNat : Nat) : Rat)
  else 1 / ((Nat.pow base exponent.natAbs : Nat) : Rat)

/-- The digits with which powers are worked out before a number is rounded. -/
def workingDigits : Nat := 640

/-- The product of an integer and powers of two and of five as a rounded number; one that is too small is
zero. -/
def scaled? (digits : Nat) (twos fives : Int) : Option Binary :=
  match Binary.power? workingDigits 5 fives.natAbs with
  | some p =>
    let x : Binary := ⟨digits, twos⟩
    if 0 ≤ fives then x.mul? Binary.constantDigits p else x.quotient? Binary.constantDigits p
  | none => if 0 ≤ fives then none else some {}

/-- Whether an exponent is that of a number, before powers of five are counted. -/
def isExponent (e : Int) : Bool :=
  Binary.leastExponent ≤ e && e ≤ Binary.largestExponent

/-- The most that the exponent of a literal can be. -/
def exponentLimit : Nat := 9223372036854775807

/-- The product of digits and powers of two and of five. It is a fraction unless it is very large or very
small. -/
def scaledNumber? (digits : Nat) (twos fives : Int) : Option Number := do
  if digits == 0 then return 0
  guard (isExponent (twos + Binary.digitCount digits))
  let x ← scaled? digits twos fives
  if x.mantissa == 0 then return 0
  return if Number.isNear x then .exact ((digits : Rat) * power 2 twos * power 5 fives) else .rounded x

/-- How many binary digits a digit of a base stands for, apart from powers of five. -/
def digitBits (base : Nat) : Nat :=
  if base == 16 then 4 else if base == 8 then 3 else 1

/-- The value of a number with digits in a base, some of them behind the point, and an exponent. -/
def fractionValue? (base digits behind : Nat) (exponent : Int) : Option Number :=
  let tens : Int := if base == 16 then 0 else exponent
  let fives := if base == 10 then tens - behind else tens
  scaledNumber? digits (exponent - behind * digitBits base) fives

/-- The value of a number without the mark of imaginary ones. A leading zero marks octal digits of an
integer, and integers have a limit. -/
def numberValue? (p : NumberParts) : Option Number := do
  let fraction := (p.fraction.getD []).filter (· != '_')
  let exponent ← match p.exponent with
    | some (_, ds) => exponentValue? ds
    | none => some 0
  guard (exponent.natAbs ≤ exponentLimit)
  if p.kind == .int then
    let octal := p.mark.isEmpty && p.whole.head? == some '0'
    let n ← digitsValue? (if octal then 8 else p.base) p.whole
    guard (Binary.digitCount n ≤ Binary.constantDigits)
    return .exact n
  else fractionValue? p.base (← digitsValue? p.base (p.whole ++ fraction)) fraction.length exponent

/-- The most characters that a number may have. -/
def literalLimit : Nat := 10000

/-- The constant of a literal. -/
def ofLiteral? (kind : TokenKind) (literal : String) : Option Constant :=
  match kind with
  | .int | .float | .imaginary => do
    guard (literal.utf8ByteSize ≤ literalLimit)
    let parts := (NumberParts.read literal.toList).1
    let value ← numberValue? parts
    return if parts.imaginary then number 0 value else number value 0
  | .rune => (runeValue? literal).map fun n => ofInt n
  | .string => (unquote? literal).map text
  | _ => none

end TaggedUnion.Constant
