import TaggedUnion.Constant.Value
import TaggedUnion.Types.Basics

/-!
# Constants of basic types

A constant of a basic type has a value of that type: an integer within the range of the type, or a number
that is rounded to the nearest one with the precision of the type, of which the even one is taken if
two are equally near.
-/

namespace TaggedUnion.Constant

open TaggedUnion.Types

/-- A format of binary floating point numbers. -/
structure Precision where
  /-- The number of digits of a mantissa. -/
  digits : Nat
  /-- The least exponent of the last digit. -/
  least : Int
  /-- Numbers from this power of two on are too large. -/
  limit : Int

def singlePrecision : Precision := ⟨24, -149, 128⟩

def doublePrecision : Precision := ⟨53, -1074, 1024⟩

/-- The integer nearest to a number, the even one of two. -/
def nearest (r : Rat) : Int :=
  let low := r.floor
  let rest := r - low
  if rest < 1 / 2 then low
  else if 1 / 2 < rest then low + 1
  else if low % 2 == 0 then low else low + 1

/-- A power of two. -/
def binaryPower (e : Int) : Rat :=
  if 0 ≤ e then ((Nat.pow 2 e.toNat : Nat) : Rat) else 1 / ((Nat.pow 2 e.natAbs : Nat) : Rat)

/-- The exponent of the leading binary digit of a positive number. -/
def magnitude (r : Rat) : Int :=
  let guess : Int := (Nat.log2 r.num.natAbs : Int) - Nat.log2 r.den
  if r < binaryPower guess then guess - 1 else guess

/-- The nearest number of a format; there is none if the number is too large. -/
def Precision.round? (p : Precision) (r : Rat) : Option Rat :=
  if r == 0 then some 0
  else
    let size := if r < 0 then -r else r
    let e := max (magnitude size - (p.digits - 1)) p.least
    let rounded := (nearest (size / binaryPower e) : Rat) * binaryPower e
    if binaryPower p.limit ≤ rounded then none else some (if r < 0 then -rounded else rounded)

/-- The nearest number of a format to a constant. -/
def Precision.roundNumber? (p : Precision) : Number → Option Number
  | .exact r => (p.round? r).map .exact
  | .rounded x =>
    if Number.isNear x then (p.round? x.toRat).map .exact
    else if 0 < x.top then none
    else some 0

/-- Whether an integer lies in the range of an integer type. Untyped ones have a limit as well. -/
def inRange (type : String) (n : Int) : Bool :=
  match signedBits.lookup type, unsignedBits.lookup type with
  | some bits, _ =>
    let bound : Int := (Nat.pow 2 (bits - 1) : Nat)
    n < bound && -n ≤ bound
  | _, some bits => 0 ≤ n && n < (Nat.pow 2 bits : Nat)
  | _, _ => n.natAbs < Nat.pow 2 512

/-- The value that a constant has as one of the given basic type, if it can be one. -/
def fit? (type : String) (c : Constant) : Option Constant :=
  if isBooleanName type then match c with
    | bool b => some (bool b)
    | _ => none
  else if isStringName type then match c with
    | text bs => some (text bs)
    | _ => none
  else if isIntegerName type then do
    let n ← c.int?
    guard (inRange type n)
    return ofInt n
  else match type, c with
    | "untyped float", c => c.real?.map (number · 0)
    | "untyped complex", number re im => some (number re im)
    | "float32", c => do return number (← singlePrecision.roundNumber? (← c.real?)) 0
    | "float64", c => do return number (← doublePrecision.roundNumber? (← c.real?)) 0
    | "complex64", number re im =>
      do return number (← singlePrecision.roundNumber? re) (← singlePrecision.roundNumber? im)
    | "complex128", number re im =>
      do return number (← doublePrecision.roundNumber? re) (← doublePrecision.roundNumber? im)
    | _, _ => none

end TaggedUnion.Constant
