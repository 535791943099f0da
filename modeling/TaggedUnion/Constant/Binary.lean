/-!
# Binary numbers

Numbers of the form `m * 2 ^ e` whose mantissa has a fixed number of binary digits. Results of operations
are rounded to the nearest such number, of which the even one is taken if two are equally near. Numbers
whose exponents are too large do not exist, and those whose exponents are too small are zero.
-/

namespace TaggedUnion

/-- A binary number. In normal form the mantissa is zero or has as many digits as the format says. -/
structure Binary where
  mantissa : Int := 0
  exponent : Int := 0
deriving Repr, DecidableEq, Inhabited

namespace Binary

/-- The digits of constants that are not kept as fractions. -/
def constantDigits : Nat := 512

/-- The exponents of the first digit that numbers can have. -/
def leastExponent : Int := -2147483648

@[inherit_doc leastExponent]
def largestExponent : Int := 2147483647

/-- The number of binary digits. -/
def digitCount (n : Nat) : Nat :=
  if n == 0 then 0 else Nat.log2 n + 1

/-- A number without its last `k` binary digits, rounded. -/
def dropDigits (n k : Nat) : Nat :=
  let unit := Nat.pow 2 k
  let low := n / unit
  let rest := n % unit
  if 2 * rest < unit then low
  else if unit < 2 * rest then low + 1
  else if low % 2 == 0 then low else low + 1

/-- The nearest number with the given count of digits. -/
def round? (digits : Nat) (m e : Int) : Option Binary :=
  let size := digitCount m.natAbs
  if size == 0 then some {}
  else
    let m' : Nat :=
      if size ≤ digits then m.natAbs * Nat.pow 2 (digits - size) else dropDigits m.natAbs (size - digits)
    let e' : Int := e + size - digits
    let (m', e') := if digitCount m' ≤ digits then (m', e') else (m' / 2, e' + 1)
    let top := e' + digits
    if largestExponent < top then none
    else if top < leastExponent then some {}
    else some ⟨if m < 0 then -m' else m', e'⟩

/-- The exponent of the first digit, if the number were a fraction below one. -/
def top (x : Binary) : Int :=
  x.exponent + digitCount x.mantissa.natAbs

def neg (x : Binary) : Binary :=
  { x with mantissa := -x.mantissa }

def mul? (digits : Nat) (x y : Binary) : Option Binary :=
  round? digits (x.mantissa * y.mantissa) (x.exponent + y.exponent)

/-- The sum. A number that is far below the last digit of the other makes no difference. -/
def add? (digits : Nat) (x y : Binary) : Option Binary :=
  let far : Int := 2 * digits + 8
  if x.mantissa == 0 then some y
  else if y.mantissa == 0 then some x
  else if far < x.top - y.top then some x
  else if far < y.top - x.top then some y
  else
    let e := min x.exponent y.exponent
    let shifted := fun z : Binary => z.mantissa * (Nat.pow 2 (z.exponent - e).toNat : Nat)
    round? digits (shifted x + shifted y) e

/-- The quotient of two integers. Digits that are cut off show in an additional last one. -/
def ratio? (digits : Nat) (m : Int) (n : Nat) (e : Int) : Option Binary :=
  if n == 0 then none
  else
    let k := digits + 2 + digitCount n
    let scaled := m.natAbs * Nat.pow 2 k
    let q := 2 * (scaled / n) + if scaled % n == 0 then 0 else 1
    round? digits (if m < 0 then -q else q) (e - k - 1)

/-- The quotient; there is none by zero. -/
def quotient? (digits : Nat) (x y : Binary) : Option Binary :=
  ratio? digits (if y.mantissa < 0 then -x.mantissa else x.mantissa) y.mantissa.natAbs
    (x.exponent - y.exponent)

/-- The number nearest to a fraction. -/
def ofRat? (digits : Nat) (r : Rat) : Option Binary :=
  ratio? digits r.num r.den 0

/-- Whether a number is less than another one. -/
def lt (x y : Binary) : Bool :=
  let smaller := fun a b : Binary =>
    a.mantissa != 0 && b.mantissa != 0 &&
      (a.top < b.top || (a.top == b.top &&
        a.mantissa * (Nat.pow 2 (a.exponent - b.exponent).toNat : Nat) <
          b.mantissa * (Nat.pow 2 (b.exponent - a.exponent).toNat : Nat)))
  if x.mantissa < 0 then 0 ≤ y.mantissa || smaller y.neg x.neg
  else 0 < y.mantissa && (x.mantissa == 0 || smaller x y)

/-- A power of a positive integer. -/
def power? (digits base n : Nat) : Option Binary :=
  if n == 0 then round? digits 1 0
  else do
    let half ← power? digits base (n / 2)
    let square ← mul? digits half half
    if n % 2 == 0 then return square else mul? digits square ⟨base, 0⟩
termination_by n
decreasing_by
  simp_all
  omega

/-- The fraction that a number is. -/
def toRat (x : Binary) : Rat :=
  if 0 ≤ x.exponent then ((x.mantissa * (Nat.pow 2 x.exponent.toNat : Nat) : Int) : Rat)
  else (x.mantissa : Rat) / ((Nat.pow 2 x.exponent.natAbs : Nat) : Rat)

/-- The integer that is left if the digits behind the point are cut off. -/
def truncated (x : Binary) : Int :=
  if 0 ≤ x.exponent then x.mantissa * (Nat.pow 2 x.exponent.toNat : Nat)
  else x.mantissa.tdiv (Nat.pow 2 x.exponent.natAbs : Nat)

/-- Whether there is nothing behind the point. -/
def isInteger (x : Binary) : Bool :=
  0 ≤ x.exponent || x.mantissa % (Nat.pow 2 x.exponent.natAbs : Nat) == 0

/-- The number with its last few digits set to zero, or the next one further from zero whose last digits
are. -/
def clearDigits (count : Nat) (away : Bool) (x : Binary) : Binary :=
  let unit : Int := (Nat.pow 2 count : Nat)
  let low := x.mantissa.tdiv unit
  let exact := x.mantissa == low * unit
  let step : Int := if exact || !away then 0 else if x.mantissa < 0 then -1 else 1
  ⟨low + step, x.exponent + count⟩

end Binary

end TaggedUnion
