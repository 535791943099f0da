import TaggedUnion.Constant.Binary

/-!
# Real constants

Real numbers are kept as fractions as long as their numerators and denominators are not too large. Others
are rounded to binary numbers, and what is made from a rounded number is rounded as well.
-/

namespace TaggedUnion

/-- A real number. -/
inductive Number
  | exact (r : Rat)
  | rounded (x : Binary)
deriving Repr, DecidableEq, Inhabited

namespace Number

instance : OfNat Number 0 := ⟨exact 0⟩

/-- Parts of fractions have fewer binary digits than this, and exponents are smaller. -/
def partLimit : Nat := 4096

/-- A fraction, which is rounded if its parts are too large. -/
def ofRat? (r : Rat) : Option Number :=
  let small := fun n => Binary.digitCount n < partLimit
  if small r.num.natAbs && small r.den then some (exact r)
  else (Binary.ofRat? Binary.constantDigits r).map rounded

/-- A number as a rounded one. -/
def round? : Number → Option Binary
  | exact r => Binary.ofRat? Binary.constantDigits r
  | rounded x => some x

/-- An operation, which is exact if both operands are. -/
def operation? (onRats : Rat → Rat → Option Rat) (onBinaries : Binary → Binary → Option Binary)
    (x y : Number) : Option Number :=
  match x, y with
  | exact a, exact b => (onRats a b).bind ofRat?
  | x, y => do return rounded (← onBinaries (← x.round?) (← y.round?))

def isZero : Number → Bool
  | exact r => r == 0
  | rounded x => x.mantissa == 0

def neg : Number → Number
  | exact r => exact (-r)
  | rounded x => rounded x.neg

def add? : Number → Number → Option Number :=
  operation? (fun a b => some (a + b)) (Binary.add? Binary.constantDigits)

def sub? (x y : Number) : Option Number :=
  x.add? y.neg

def mul? : Number → Number → Option Number :=
  operation? (fun a b => some (a * b)) (Binary.mul? Binary.constantDigits)

/-- The quotient; there is none by zero. -/
def quotient? : Number → Number → Option Number :=
  operation? (fun a b => if b == 0 then none else some (a / b)) (Binary.quotient? Binary.constantDigits)

/-- Whether a number is less than another one. -/
def lt (x y : Number) : Bool :=
  match x, y with
  | exact a, exact b => a < b
  | x, y => ((x.round?).getD {}).lt ((y.round?).getD {})

/-- Whether two numbers are the same. -/
def same (x y : Number) : Bool :=
  !x.lt y && !y.lt x

/-- Whether the first digit of a binary number is near enough to the point for a fraction. -/
def isNear (x : Binary) : Bool :=
  x.top.natAbs < partLimit

/-- The last digits of a rounded number that may be wrong. -/
def doubtfulDigits : Nat := 4

/-- The integer that a number is. One that is rounded may have got a wrong last digit, so it counts as an
integer that lies next to it. -/
def int? : Number → Option Int
  | exact r => if r.den == 1 then some r.num else none
  | rounded x =>
    if !isNear x then none
    else
      ([x, x.clearDigits doubtfulDigits false, x.clearDigits doubtfulDigits true].find?
        Binary.isInteger).map Binary.truncated

end Number

end TaggedUnion
