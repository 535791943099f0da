/-!
# Shortest decimals

The decimal with the fewest digits that still rounds to a given binary floating point number, and of
those the nearest to it; the even one of two that are equally near. A finite number is
`mantissa * 2 ^ exponent`; the reals that round to it form an interval between the midpoints to its
neighbours, whose ends belong to it when the mantissa is even. For 1, 2, … digits the two neighbours
of the number on that decimal grid are tried against the interval in exact arithmetic.
-/

namespace TaggedUnion.Decimal

/-- A positive number and the interval of reals that round to it, all over one denominator. -/
structure Rounding where
  /-- The number is `value / den`. -/
  value : Nat
  /-- The lower end of the interval is `low / den`. -/
  low : Nat
  /-- The upper end of the interval is `high / den`. -/
  high : Nat
  /-- The common denominator, a power of two. -/
  den : Nat
  /-- Whether the ends round to the number as well. -/
  closed : Bool

/-- The rounding interval of `mantissa * 2 ^ exponent`. Below a power of two, numbers lie twice as
dense, so the lower end is nearer there. -/
def Rounding.ofBinary (mantissa : Nat) (exponent : Int) (denseBelow : Bool) : Rounding :=
  let shift := (exponent - 2).toNat
  let den := Nat.pow 2 (2 - exponent).toNat
  { value := 4 * mantissa * Nat.pow 2 shift
    low := (4 * mantissa - (if denseBelow then 1 else 2)) * Nat.pow 2 shift
    high := (4 * mantissa + 2) * Nat.pow 2 shift
    den
    closed := mantissa % 2 == 0 }

/-- A decimal `digits * 10 ^ exponent`. -/
structure Scaled where
  digits : Nat
  exponent : Int

/-- Whether `c * 10 ^ k` rounds to the number. -/
def Rounding.contains (r : Rounding) (c : Nat) (k : Int) : Bool :=
  let x := c * r.den * Nat.pow 10 k.toNat
  let s := Nat.pow 10 (-k).toNat
  if r.closed then r.low * s ≤ x && x ≤ r.high * s else r.low * s < x && x < r.high * s

/-- The position of the leading digit: the number is at least `10 ^ (e - 1)` and below `10 ^ e`. -/
def Rounding.magnitude (r : Rounding) : Int :=
  if r.den ≤ r.value then (Nat.toDigits 10 (r.value / r.den)).length
  else match (List.range 400).find? fun j => r.den ≤ r.value * Nat.pow 10 (j + 1) with
    | some j => -(j : Int)
    | none => 0

/-- The nearest of the two neighbours on the grid of multiples of `10 ^ k` that rounds to the number. If
both are equally near, the even one is. -/
def Rounding.onGrid (r : Rounding) (k : Int) : Option Scaled :=
  let num := r.value * Nat.pow 10 (-k).toNat
  let den := r.den * Nat.pow 10 k.toNat
  let below := num / den
  let twice := 2 * (num % den)
  let down := twice < den || (twice == den && below % 2 == 0)
  let candidates := if down then [below, below + 1] else [below + 1, below]
  (candidates.find? (r.contains · k)).map (⟨·, k⟩)

/-- The shortest decimal that rounds to the number. -/
def Rounding.shortest (r : Rounding) : Scaled :=
  let e := r.magnitude
  ((List.range 17).findSome? fun (n : Nat) => r.onGrid (e - (n + 1))).getD ⟨0, 0⟩

/-! ## Text -/

/-- How numbers are written: positional where the exponent of the leading digit lies in a range, and
with an exponent mark elsewhere. -/
structure NumberStyle where
  /-- The least exponent written positionally. -/
  least : Int
  /-- The first exponent above that is no longer written positionally. -/
  limit : Int
  /-- The least number of digits of a written exponent. -/
  exponentWidth : Nat

/-- Significant digits, with the zeros at their end moved into the exponent of the leading digit. -/
def Scaled.significant (d : Scaled) : List Char × Int :=
  let ds := Nat.toDigits 10 d.digits
  let trimmed := (ds.reverse.dropWhile (· == '0')).reverse
  (if trimmed.isEmpty then ['0'] else trimmed, d.exponent + ds.length - 1)

/-- The text of a positive decimal. -/
def NumberStyle.write (style : NumberStyle) (d : Scaled) : String :=
  let (ds, e) := d.significant
  if style.least ≤ e && e < style.limit then
    if e < 0 then "0." ++ String.ofList (List.replicate (-e - 1).toNat '0' ++ ds)
    else
      let whole := ds.take (e.toNat + 1)
      let padding := List.replicate (e.toNat + 1 - whole.length) '0'
      let fraction := ds.drop (e.toNat + 1)
      String.ofList (whole ++ padding) ++
        (if fraction.isEmpty then "" else "." ++ String.ofList fraction)
  else
    let exponent := Nat.toDigits 10 e.natAbs
    let fraction := ds.drop 1
    String.ofList (ds.take 1) ++ (if fraction.isEmpty then "" else "." ++ String.ofList fraction) ++
      (if e < 0 then "e-" else "e+") ++
      String.ofList (List.replicate (style.exponentWidth - exponent.length) '0' ++ exponent)

/-- The text of a floating point number: the shortest decimal that reads back as it. -/
def NumberStyle.writeFloat (style : NumberStyle) (x : Float) : String :=
  let bits := x.toBits.toNat
  let sign := if bits / Nat.pow 2 63 == 1 then "-" else ""
  let biased := bits / Nat.pow 2 52 % Nat.pow 2 11
  let fraction := bits % Nat.pow 2 52
  if biased == 2047 then
    if fraction != 0 then "NaN" else if sign == "" then "+Inf" else "-Inf"
  else if biased == 0 && fraction == 0 then sign ++ "0"
  else
    let mantissa := if biased == 0 then fraction else fraction + Nat.pow 2 52
    let exponent : Int := (if biased == 0 then 1 else biased : Nat) - 1075
    let r := Rounding.ofBinary mantissa exponent (fraction == 0 && 1 < biased)
    sign ++ style.write r.shortest

end TaggedUnion.Decimal
