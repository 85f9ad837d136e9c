/-!
# Binary64

Finite doubles as exact dyadic magnitudes with a sign. Every operation computes with natural
numbers and rounds once, to nearest with a half going to the even neighbour.
-/

namespace LspProbe

/-- The magnitude `mantissa · 2 ^ exponent`. -/
structure Dyadic where
  mantissa : Nat
  exponent : Int
  deriving DecidableEq, Repr

/-- A finite double. Zero keeps its sign. -/
structure Binary64 where
  negative : Bool
  magnitude : Dyadic
  deriving DecidableEq, Repr

namespace Dyadic

/-- Zero, written with the smallest exponent a double has. -/
def zero : Dyadic := ⟨0, -1074⟩

def numerator (x : Dyadic) : Nat := x.mantissa * Nat.pow 2 x.exponent.toNat

def denominator (x : Dyadic) : Nat := Nat.pow 2 (-x.exponent).toNat

/-- The integer nearest to `num / den`; a half goes to the even neighbour. -/
def roundDiv (num den : Nat) : Nat :=
  let quotient := num / den
  let twice := 2 * (num % den)
  if twice < den then quotient
  else if den < twice then quotient + 1
  else quotient + quotient % 2

/-- Numerator and denominator of `num / den` in units of `base ^ power`. -/
def inUnits (base : Nat) (power : Int) (num den : Nat) : Nat × Nat :=
  (num * Nat.pow base (-power).toNat, den * Nat.pow base power.toNat)

/-- The exponent of the last of 53 binary places of `num / den`, or that of the least double. -/
def lastPlace (num den : Nat) : Int :=
  let guess : Int := (num.log2 : Int) - den.log2 - 52
  let (n, d) := inUnits 2 guess num den
  let place := if n < d * 0x10000000000000 then guess - 1 else guess
  if place < -1074 then -1074 else place

/-- The double nearest to `num / den`; none beyond the largest one. -/
def ofRatio (num den : Nat) : Option Dyadic :=
  if num = 0 then some zero
  else
    let place := lastPlace num den
    let (n, d) := inUnits 2 place num den
    let mantissa := roundDiv n d
    let rounded : Dyadic :=
      if mantissa = 0x20000000000000 then ⟨0x10000000000000, place + 1⟩ else ⟨mantissa, place⟩
    if rounded.exponent ≤ 971 then some rounded else none

/-- The rounded product. -/
def mul? (x y : Dyadic) : Option Dyadic :=
  ofRatio (x.numerator * y.numerator) (x.denominator * y.denominator)

/-- The rounded quotient. -/
def div? (x y : Dyadic) : Option Dyadic :=
  ofRatio (x.numerator * y.denominator) (x.denominator * y.numerator)

/-- The largest power of ten that is a double. -/
def maxPower : Nat := 308

/-- The double nearest to `10 ^ k`, for `k` up to `maxPower`. -/
def powerOfTen (k : Nat) : Dyadic := (ofRatio (Nat.pow 10 k) 1).getD zero

/-- `x / 10 ^ k`, by repeated division by the largest power of ten, each step rounded. Three such
divisions take every double to zero, so more than three rounds change nothing. -/
def shrinkByTen : Nat → Dyadic → Nat → Option Dyadic
  | 0, _, _ => some zero
  | rounds + 1, x, k =>
    if k ≤ maxPower then x.div? (powerOfTen k)
    else if x.mantissa = 0 then some zero
    else
      match x.div? (powerOfTen maxPower) with
      | none => none
      | some smaller => shrinkByTen rounds smaller (k - maxPower)

/-- `x · 10 ^ exponent`, each step rounded; none if the result is too large. -/
def scaleByTen (x : Dyadic) (exponent : Int) : Option Dyadic :=
  if exponent < 0 then shrinkByTen 4 x exponent.natAbs
  else if exponent.natAbs ≤ maxPower then x.mul? (powerOfTen exponent.natAbs)
  else if x.mantissa = 0 then some zero
  else none

/-- `significand · 10 ^ exponent`, rounded on the way as `scaleByTen` says. -/
def ofDecimal (significand : Nat) (exponent : Int) : Option Dyadic :=
  match ofRatio significand 1 with
  | none => none
  | some x => x.scaleByTen exponent

end Dyadic

namespace Binary64

def zero (negative : Bool) : Binary64 := ⟨negative, .zero⟩

/-- Numeric equality: the two zeros are equal. -/
def same (x y : Binary64) : Bool :=
  (x.magnitude.mantissa = 0 ∧ y.magnitude.mantissa = 0) ∨ x = y

end Binary64

end LspProbe
