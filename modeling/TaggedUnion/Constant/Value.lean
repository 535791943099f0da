import TaggedUnion.Constant.Number
import TaggedUnion.Text.Bytes

/-!
# Constant values

Constants are truth values, byte strings and complex numbers. Whether a number counts as an
integer, a character or a fraction is up to its type; the value is the same. Integers have the
operations on bits that two's complement representations of unlimited length have.
-/

namespace TaggedUnion

/-- The value of a constant. -/
inductive Constant
  | bool (b : Bool)
  | text (bs : Text.Bytes)
  | number (re im : Number)
deriving Repr, DecidableEq, Inhabited

namespace Constant

/-- The constant of an integer. -/
def ofInt (n : Int) : Constant :=
  number (.exact n) 0

/-- The real number that a constant is. -/
def real? : Constant → Option Number
  | number re im => if im.isZero then some re else none
  | _ => none

/-- The integer that a constant is. -/
def int? (c : Constant) : Option Int :=
  c.real?.bind Number.int?

/-! ## Integers -/

/-- The bits of the first number that the second does not have. -/
def clearBits (m n : Nat) : Nat :=
  m ^^^ (m &&& n)

/-- The bits that both integers have. -/
def bitAnd : Int → Int → Int
  | .ofNat m, .ofNat n => (m &&& n : Nat)
  | .ofNat m, .negSucc n => (clearBits m n : Nat)
  | .negSucc m, .ofNat n => (clearBits n m : Nat)
  | .negSucc m, .negSucc n => .negSucc (m ||| n)

/-- The bits that one of the integers has. -/
def bitOr (a b : Int) : Int :=
  -bitAnd (-a - 1) (-b - 1) - 1

/-- The bits that just one of the integers has. -/
def bitXor : Int → Int → Int
  | .ofNat m, .ofNat n => (m ^^^ n : Nat)
  | .ofNat m, .negSucc n => .negSucc (m ^^^ n)
  | .negSucc m, .ofNat n => .negSucc (m ^^^ n)
  | .negSucc m, .negSucc n => (m ^^^ n : Nat)

/-- The value of an operation on integers; quotients are rounded towards zero. -/
def intOperation? (op : String) (a b : Int) : Option Int :=
  match op with
  | "/" => if b == 0 then none else some (a.tdiv b)
  | "%" => if b == 0 then none else some (a.tmod b)
  | "&" => some (bitAnd a b)
  | "|" => some (bitOr a b)
  | "^" => some (bitXor a b)
  | "&^" => some (bitAnd a (-b - 1))
  | _ => none

/-- An integer moved by a number of bits. -/
def shift (op : String) (a : Int) (count : Nat) : Int :=
  if op == "<<" then a * (Nat.pow 2 count : Nat) else a.fdiv (Nat.pow 2 count : Nat)

/-! ## Operations -/

/-- The product of two complex numbers. -/
def product? (a b c d : Number) : Option Constant := do
  let re ← (← a.mul? c).sub? (← b.mul? d)
  return number re (← (← b.mul? c).add? (← a.mul? d))

/-- The quotient of two complex numbers; none by zero. -/
def quotient? (a b c d : Number) : Option Constant := do
  let size ← (← c.mul? c).add? (← d.mul? d)
  let re ← (← a.mul? c).add? (← b.mul? d)
  let im ← (← b.mul? c).sub? (← a.mul? d)
  return number (← re.quotient? size) (← im.quotient? size)

/-- The value of an operation with two operands. On integers, as opposed to other numbers, there are
the operations on bits, and quotients are integers. -/
def binary? (integers : Bool) (op : String) : Constant → Constant → Option Constant
  | bool a, bool b =>
    match op with
    | "&&" => some (bool (a && b))
    | "||" => some (bool (a || b))
    | _ => none
  | text a, text b => if op == "+" then some (text (a ++ b)) else none
  | number a b, number c d =>
    match op with
    | "+" => do return number (← a.add? c) (← b.add? d)
    | "-" => do return number (← a.sub? c) (← b.sub? d)
    | "*" => if b.isZero && d.isZero then (a.mul? c).map (number · 0) else product? a b c d
    | op =>
      if integers then do
        return ofInt (← intOperation? op (← (number a b).int?) (← (number c d).int?))
      else if op == "/" then
        if b.isZero && d.isZero then (a.quotient? c).map (number · 0) else quotient? a b c d
      else none
  | _, _ => none

/-- The value of an operation with one operand. -/
def unary? (op : String) : Constant → Option Constant
  | bool a => if op == "!" then some (bool (!a)) else none
  | number a b =>
    match op with
    | "+" => some (number a b)
    | "-" => some (number a.neg b.neg)
    | "^" => (number a b).int?.map fun n => ofInt (-n - 1)
    | _ => none
  | text _ => none

/-- Whether byte strings stand in the given order. -/
def bytesLt : Text.Bytes → Text.Bytes → Bool
  | _, [] => false
  | [], _ :: _ => true
  | a :: as, b :: bs => a < b || (a == b && bytesLt as bs)

/-- Whether two constants are the same. -/
def same : Constant → Constant → Bool
  | number a b, number c d => a.same c && b.same d
  | x, y => x == y

/-- Whether a comparison holds. -/
def compare? (op : String) (x y : Constant) : Option Bool :=
  let ordered := fun (lt gt : Bool) =>
    match op with
    | "<" => some lt
    | "<=" => some (!gt)
    | ">" => some gt
    | ">=" => some (!lt)
    | _ => none
  match op with
  | "==" => some (same x y)
  | "!=" => some (!same x y)
  | _ =>
    match x, y with
    | text a, text b => ordered (bytesLt a b) (bytesLt b a)
    | x, y =>
      match x.real?, y.real? with
      | some a, some b => ordered (a.lt b) (b.lt a)
      | _, _ => none

end Constant

end TaggedUnion
