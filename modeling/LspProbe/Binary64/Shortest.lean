import LspProbe.Binary64.Basic

/-!
# Shortest decimals

The fewest decimal digits that read back as a given double, and of those the nearest ones.
-/

namespace LspProbe

/-- The decimal `digits · 10 ^ exponent`. -/
structure Decimal where
  digits : Nat
  exponent : Int
  deriving DecidableEq, Repr

namespace Decimal

/-- Drops trailing zeros, at most `budget` of them. -/
def strip : Nat → Decimal → Decimal
  | 0, d => d
  | budget + 1, d =>
    if d.digits % 10 = 0 ∧ d.digits ≠ 0 then strip budget ⟨d.digits / 10, d.exponent + 1⟩ else d

end Decimal

namespace Dyadic

/-- The power of ten of the first digit of `num / den`. -/
def leadingPower (num den : Nat) : Int :=
  let guess : Int := (Nat.toDigits 10 num).length - (Nat.toDigits 10 den).length
  let (n, d) := inUnits 10 guess num den
  if n < d then guess - 1 else guess

/-- The reals that round to a magnitude, as multiples of a quarter of its last place. Both ends
belong to it iff the mantissa is even. -/
structure Basin where
  low : Nat
  high : Nat
  exponent : Int
  closed : Bool

/-- The spacing halves below a power of two, except at the least exponent. -/
def basin (x : Dyadic) : Basin :=
  let below := if x.mantissa = 0x10000000000000 ∧ -1074 < x.exponent then 1 else 2
  { low := 4 * x.mantissa - below, high := 4 * x.mantissa + 2, exponent := x.exponent - 2,
    closed := x.mantissa % 2 = 0 }

/-- Whether `n · 10 ^ power` lies in the basin. -/
def Basin.contains (b : Basin) (n : Nat) (power : Int) : Bool :=
  let grid := n * Nat.pow 10 power.toNat * Nat.pow 2 (-b.exponent).toNat
  let unit := Nat.pow 10 (-power).toNat * Nat.pow 2 b.exponent.toNat
  if b.closed then b.low * unit ≤ grid && grid ≤ b.high * unit
  else b.low * unit < grid && grid < b.high * unit

/-- The decimal with the given last place that reads back as `x`, the nearer one of two. -/
def nearestAt (x : Dyadic) (power : Int) : Option Decimal :=
  let (num, den) := inUnits 10 power x.numerator x.denominator
  let nearest := roundDiv num den
  let other := if nearest = num / den then num / den + 1 else num / den
  if x.basin.contains nearest power then some ⟨nearest, power⟩
  else if x.basin.contains other power then some ⟨other, power⟩
  else none

/-- Tries one place after the other, the first digit's power of ten first. -/
def shortestFrom (x : Dyadic) (lead : Int) : Nat → Nat → Decimal
  | _, 0 => ⟨x.numerator / x.denominator, 0⟩
  | places, budget + 1 =>
    match x.nearestAt (lead - places) with
    | some d => d.strip 20
    | none => shortestFrom x lead (places + 1) budget

/-- The shortest decimal that reads back as `x`; seventeen digits always do. -/
def shortest (x : Dyadic) : Decimal :=
  if x.mantissa = 0 then ⟨0, 0⟩ else shortestFrom x (leadingPower x.numerator x.denominator) 0 17

end Dyadic

namespace Binary64

/-- `count` zeros. -/
def zeros (count : Nat) : String := String.ofList (List.replicate count '0')

/-- Decimal text: positional while the first digit stands between `10 ^ -5` and `10 ^ 15`, always
with a point; otherwise scientific, with a signed exponent. -/
def magnitudeText (d : Decimal) : String :=
  let digits := Nat.toDigits 10 d.digits
  let count := digits.length
  let lead : Int := d.exponent + count - 1
  if -5 ≤ lead ∧ lead ≤ 15 then
    if 0 ≤ d.exponent then String.ofList digits ++ zeros d.exponent.toNat ++ ".0"
    else if 0 ≤ lead then
      let (whole, fraction) := digits.splitAt (lead.toNat + 1)
      String.ofList whole ++ "." ++ String.ofList fraction
    else "0." ++ zeros (-lead - 1).toNat ++ String.ofList digits
  else
    let fraction := if count ≤ 1 then "" else "." ++ String.ofList (digits.drop 1)
    String.ofList (digits.take 1) ++ fraction ++ "e" ++ (if lead < 0 then "-" else "+")
      ++ toString lead.natAbs

/-- The text of a double: the fewest digits that read back. -/
def text (x : Binary64) : String :=
  (if x.negative then "-" else "") ++ magnitudeText x.magnitude.shortest

end Binary64

end LspProbe
