import LspProbe.Json.Number

/-!
# Normal doubles

Rounding gives a magnitude one form: 53 binary places, or fewer of them at the least exponent. So
doubles that were read from literals are the same exactly if they have the same value; a sign
makes no difference to zero.
-/

namespace LspProbe

namespace Dyadic

/-- The form that rounding gives to a magnitude. -/
structure Normal (x : Dyadic) : Prop where
  mantissa_lt : x.mantissa < 0x20000000000000
  exponent_ge : -1074 ≤ x.exponent
  full : x.exponent = -1074 ∨ 0x10000000000000 ≤ x.mantissa

private theorem zero_normal : zero.Normal := ⟨by decide, by decide, .inl rfl⟩

/-- The ratio `num / den` lies below a power of two. -/
def Below (num den : Nat) (power : Int) : Prop :=
  num * Nat.pow 2 (-power).toNat < den * Nat.pow 2 power.toNat

private theorem below_iff {num den x y : Nat} {power : Int} (h : (y : Int) - x = power) :
    Below num den power ↔ num * Nat.pow 2 x < den * Nat.pow 2 y := by
  -- One of the two exponents in `Below` is zero, so the others exceed them by the same number.
  obtain ⟨c, hx, hy⟩ : ∃ c, x = (-power).toNat + c ∧ y = power.toNat + c :=
    ⟨x - (-power).toNat, by omega, by omega⟩
  have hpos : 0 < Nat.pow 2 c := Nat.two_pow_pos c
  have hpow (a : Nat) : Nat.pow 2 (a + c) = Nat.pow 2 a * Nat.pow 2 c := Nat.pow_add 2 a c
  rw [Below, hx, hy, hpow, hpow, ← Nat.mul_assoc, ← Nat.mul_assoc, Nat.mul_lt_mul_right hpos]

theorem Below.mono {num den : Nat} {p q : Int} (h : Below num den p) (hpq : p ≤ q) :
    Below num den q := by
  have hp : ((p.toNat : Int)) - (-p).toNat = p := by omega
  have hq : ((p.toNat + (q - p).toNat : Nat) : Int) - (-p).toNat = q := by omega
  have hle : Nat.pow 2 p.toNat ≤ Nat.pow 2 (p.toNat + (q - p).toNat) :=
    Nat.pow_le_pow_right (by decide) (Nat.le_add_right _ _)
  exact (below_iff hq).mpr (Nat.lt_of_lt_of_le ((below_iff hp).mp h) (Nat.mul_le_mul_left den hle))

private theorem below_log2 {num den : Nat} (hden : den ≠ 0) :
    Below num den ((num.log2 : Int) - den.log2 + 1) := by
  have hexponent : ((num.log2 + 1 : Nat) : Int) - den.log2 = (num.log2 : Int) - den.log2 + 1 := by
    omega
  have hnum : num < Nat.pow 2 (num.log2 + 1) := Nat.lt_log2_self
  have hle : Nat.pow 2 den.log2 ≤ den := Nat.log2_self_le hden
  rw [below_iff hexponent, Nat.mul_comm den]
  exact Nat.mul_lt_mul_of_lt_of_le hnum hle (Nat.pos_of_ne_zero hden)

private theorem not_below_log2 {num den : Nat} (hnum : num ≠ 0) :
    ¬Below num den ((num.log2 : Int) - den.log2 - 1) := by
  have hexponent : ((num.log2 : Nat) : Int) - (den.log2 + 1 : Nat) =
      (num.log2 : Int) - den.log2 - 1 := by omega
  have hden : den < Nat.pow 2 (den.log2 + 1) := Nat.lt_log2_self
  have hle : Nat.pow 2 num.log2 ≤ num := Nat.log2_self_le hnum
  rw [below_iff hexponent, Nat.not_lt, Nat.mul_comm num]
  exact Nat.mul_le_mul (Nat.le_of_lt hden) hle

private theorem inUnits_lt_iff {num den : Nat} {power : Int} (places : Nat) :
    (inUnits 2 power num den).1 < (inUnits 2 power num den).2 * Nat.pow 2 places ↔
      Below num den (power + places) := by
  have hexponent : ((power.toNat + places : Nat) : Int) - (-power).toNat = power + places := by
    omega
  have hpow : Nat.pow 2 (power.toNat + places) = Nat.pow 2 power.toNat * Nat.pow 2 places :=
    Nat.pow_add 2 power.toNat places
  rw [below_iff hexponent, hpow, ← Nat.mul_assoc]
  rfl

private theorem roundDiv_le {num den bound : Nat} (h : num < den * bound) :
    roundDiv num den ≤ bound := by
  have hquotient : num / den < bound := Nat.div_lt_of_lt_mul h
  rw [roundDiv]
  split
  · omega
  · split
    · omega
    · omega

private theorem le_roundDiv {num den bound : Nat} (hden : den ≠ 0) (h : den * bound ≤ num) :
    bound ≤ roundDiv num den := by
  have hquotient : bound ≤ num / den := by
    rw [Nat.le_div_iff_mul_le (Nat.pos_of_ne_zero hden), Nat.mul_comm]
    exact h
  rw [roundDiv]
  split
  · exact hquotient
  · split
    · omega
    · omega

/-- The last place leaves 53 binary places before it, fewer only at the least exponent. -/
private theorem lastPlace_cases {num den : Nat} (hnum : num ≠ 0) (hden : den ≠ 0) :
    Below num den (lastPlace num den + 53) ∧ -1074 ≤ lastPlace num den ∧
      (lastPlace num den = -1074 ∨ ¬Below num den (lastPlace num den + 52)) := by
  have habove : Below num den ((num.log2 : Int) - den.log2 + 1) := below_log2 hden
  have hbelow : ¬Below num den ((num.log2 : Int) - den.log2 - 1) := not_below_log2 hnum
  have hhalf : (inUnits 2 ((num.log2 : Int) - den.log2 - 52) num den).1 <
      (inUnits 2 ((num.log2 : Int) - den.log2 - 52) num den).2 * Nat.pow 2 52 ↔
      Below num den ((num.log2 : Int) - den.log2 - 52 + 52) := inUnits_lt_iff 52
  -- The place before it is held to the least exponent.
  obtain ⟨place, hplace, hfirst, hlast⟩ : ∃ place : Int,
      lastPlace num den = (if place < -1074 then -1074 else place) ∧
      Below num den (place + 53) ∧ ¬Below num den (place + 52) := by
    rw [lastPlace]
    dsimp only
    refine ⟨_, rfl, ?_⟩
    split
    · next hlt =>
      have hlt := hhalf.mp hlt
      refine ⟨hlt.mono (by omega), fun h => hbelow (h.mono (by omega))⟩
    · next hlt =>
      refine ⟨habove.mono (by omega), fun h => hlt (hhalf.mpr (h.mono ?_))⟩
      omega
  rw [hplace]
  split
  · exact ⟨hfirst.mono (by omega), by omega, .inl rfl⟩
  · exact ⟨hfirst, by omega, .inr hlast⟩

theorem ofRatio_normal {num den : Nat} (hden : den ≠ 0) {x : Dyadic}
    (h : ofRatio num den = some x) : x.Normal := by
  rw [ofRatio] at h
  split at h
  · cases h
    exact zero_normal
  · next hnum =>
    obtain ⟨hfirst, hleast, hlast⟩ := lastPlace_cases hnum hden
    have hpow : Nat.pow 2 (lastPlace num den).toNat ≠ 0 := Nat.ne_of_gt (Nat.two_pow_pos _)
    have hunits : (inUnits 2 (lastPlace num den) num den).2 ≠ 0 := Nat.mul_ne_zero hden hpow
    have hle := roundDiv_le ((inUnits_lt_iff 53).mpr hfirst)
    have hge (hfull : ¬Below num den (lastPlace num den + 52)) :=
      le_roundDiv hunits (Nat.le_of_not_lt (mt (inUnits_lt_iff 52).mp hfull))
    obtain ⟨_, h⟩ := Option.ite_none_right_eq_some.mp h
    rw [← Option.some.inj h]
    split
    · have hnext : -1074 ≤ lastPlace num den + 1 := by omega
      exact ⟨show 0x10000000000000 < 0x20000000000000 by decide, hnext, .inr (Nat.le_refl _)⟩
    · next hmantissa =>
      exact ⟨Nat.lt_of_le_of_ne hle hmantissa, hleast, hlast.imp_right hge⟩

private theorem denominator_ne_zero (x : Dyadic) :
    x.denominator ≠ 0 := Nat.ne_of_gt (Nat.two_pow_pos _)

private theorem numerator_ne_zero {x : Dyadic} (h : x.mantissa ≠ 0) : x.numerator ≠ 0 :=
  Nat.mul_ne_zero h (Nat.ne_of_gt (Nat.two_pow_pos _))

private theorem mul?_normal {x y z : Dyadic} (h : x.mul? y = some z) : z.Normal :=
  ofRatio_normal (Nat.mul_ne_zero x.denominator_ne_zero y.denominator_ne_zero) h

private theorem powersOfTen_ne_zero :
    (List.range (maxPower + 1)).all (fun k => (powerOfTen k).mantissa ≠ 0) = true := by
  decide +kernel

private theorem div?_powerOfTen_normal {x z : Dyadic} {k : Nat} (hk : k ≤ maxPower)
    (h : x.div? (powerOfTen k) = some z) : z.Normal := by
  have hmem : k ∈ List.range (maxPower + 1) := List.mem_range.mpr (Nat.lt_succ_of_le hk)
  have hpower := of_decide_eq_true (List.all_eq_true.mp powersOfTen_ne_zero k hmem)
  exact ofRatio_normal
    (Nat.mul_ne_zero x.denominator_ne_zero (numerator_ne_zero hpower)) h

section

-- A quotient by so large a power of ten is not worked out while goals are compared.
attribute [local irreducible] div?

private theorem shrinkByTen_succ (rounds : Nat) (x : Dyadic) (k : Nat) :
    shrinkByTen (rounds + 1) x k =
      if k ≤ maxPower then x.div? (powerOfTen k)
      else if x.mantissa = 0 then some zero
      else
        match x.div? (powerOfTen maxPower) with
        | none => none
        | some smaller => shrinkByTen rounds smaller (k - maxPower) := rfl

private theorem shrinkByTen_normal {rounds : Nat} {x z : Dyadic} {k : Nat}
    (h : shrinkByTen rounds x k = some z) : z.Normal := by
  induction rounds generalizing x k with
  | zero =>
    cases h
    exact zero_normal
  | succ rounds ih =>
    rw [shrinkByTen_succ] at h
    split at h
    · next hk => exact div?_powerOfTen_normal hk h
    · split at h
      · cases h
        exact zero_normal
      · split at h
        · cases h
        · exact ih h

end

private theorem scaleByTen_normal {x z : Dyadic} {exponent : Int}
    (h : x.scaleByTen exponent = some z) :
    z.Normal := by
  rw [scaleByTen] at h
  split at h
  · exact shrinkByTen_normal h
  · split at h
    · exact mul?_normal h
    · split at h
      · cases h
        exact zero_normal
      · cases h

theorem ofDecimal_normal {significand : Nat} {exponent : Int} {z : Dyadic}
    (h : ofDecimal significand exponent = some z) : z.Normal := by
  rw [ofDecimal] at h
  split at h
  · cases h
  · exact scaleByTen_normal h

/-- Of two normal magnitudes with one value, the one with the lesser exponent would need more than
53 binary places. -/
private theorem Normal.exponent_le {x y : Dyadic} (hx : x.Normal) (hy : y.Normal)
    (h : x.numerator * y.denominator = y.numerator * x.denominator) :
    y.exponent ≤ x.exponent := by
  apply Int.not_lt.mp
  intro hlt
  have hfull : 0x10000000000000 ≤ y.mantissa := by
    have hleast := hx.exponent_ge
    exact hy.full.resolve_left (by omega)
  obtain ⟨c, hc⟩ : ∃ c, (y.exponent - x.exponent).toNat = c + 1 :=
    ⟨(y.exponent - x.exponent).toNat - 1, by omega⟩
  have hexponents : y.exponent.toNat + (-x.exponent).toNat =
      x.exponent.toNat + (-y.exponent).toNat + (c + 1) := by omega
  have hpow : Nat.pow 2 y.exponent.toNat * Nat.pow 2 (-x.exponent).toNat =
      Nat.pow 2 x.exponent.toNat * Nat.pow 2 (-y.exponent).toNat * Nat.pow 2 (c + 1) := by
    simp only [Nat.pow_eq, ← Nat.pow_add, hexponents]
  have hshift : x.mantissa = y.mantissa * Nat.pow 2 (c + 1) := by
    have hunit : 0 < Nat.pow 2 x.exponent.toNat * Nat.pow 2 (-y.exponent).toNat :=
      Nat.mul_pos (Nat.two_pow_pos _) (Nat.two_pow_pos _)
    apply Nat.eq_of_mul_eq_mul_right hunit
    rw [numerator, denominator, numerator, denominator, Nat.mul_assoc, Nat.mul_assoc, hpow] at h
    rw [h]
    ac_rfl
  have htwo : 2 ≤ Nat.pow 2 (c + 1) := by
    rw [Nat.pow_eq, Nat.pow_succ]
    have hpos := Nat.two_pow_pos c
    omega
  have hle := Nat.mul_le_mul hfull htwo
  have hbound := hx.mantissa_lt
  omega

/-- Normal magnitudes with one value are equal. -/
private theorem Normal.eq_of_ratio_eq {x y : Dyadic} (hx : x.Normal) (hy : y.Normal)
    (h : x.numerator * y.denominator = y.numerator * x.denominator) : x = y := by
  have hexponent : x.exponent = y.exponent :=
    Int.le_antisymm (hy.exponent_le hx h.symm) (hx.exponent_le hy h)
  have hunit : 0 < Nat.pow 2 y.exponent.toNat * Nat.pow 2 (-y.exponent).toNat :=
    Nat.mul_pos (Nat.two_pow_pos _) (Nat.two_pow_pos _)
  rw [numerator, denominator, numerator, denominator, hexponent, Nat.mul_assoc,
    Nat.mul_assoc] at h
  have hmantissa : x.mantissa = y.mantissa := Nat.eq_of_mul_eq_mul_right hunit h
  obtain ⟨m, e⟩ := x
  obtain ⟨n, f⟩ := y
  cases hmantissa
  cases hexponent
  rfl

private theorem numerator_eq_zero_iff {x : Dyadic} : x.numerator = 0 ↔ x.mantissa = 0 := by
  refine ⟨fun h => ?_, fun h => ?_⟩
  · exact Decidable.byContradiction fun hm => numerator_ne_zero hm h
  · rw [numerator, h, Nat.zero_mul]

end Dyadic

namespace Binary64

/-- The number that a double stands for. -/
def value (x : Binary64) : Rat :=
  mkRat (if x.negative then -(x.magnitude.numerator : Int) else x.magnitude.numerator)
    x.magnitude.denominator

def Normal (x : Binary64) : Prop := x.magnitude.Normal

/-- Numbers with opposite signs are equal only as zeros. -/
private theorem signed_eq_iff {a b : Bool} {p q : Nat} :
    (if a then -(p : Int) else p) = (if b then -(q : Int) else q) ↔
      (p = 0 ∧ q = 0) ∨ (a = b ∧ p = q) := by
  cases a <;> cases b <;> simp <;> omega

private theorem value_eq_iff {x y : Binary64} :
    x.value = y.value ↔
      (x.magnitude.mantissa = 0 ∧ y.magnitude.mantissa = 0) ∨
      (x.negative = y.negative ∧ x.magnitude.numerator * y.magnitude.denominator =
        y.magnitude.numerator * x.magnitude.denominator) := by
  have hmul (b : Bool) (p d : Nat) :
      (if b then -(p : Int) else p) * d = if b then -((p * d : Nat) : Int) else (p * d : Nat) := by
    cases b with
    | false => simp
    | true =>
      simp only [if_true, Int.natCast_mul]
      exact Int.neg_mul p d
  have hzero (m n : Dyadic) : m.numerator * n.denominator = 0 ↔ m.mantissa = 0 := by
    rw [Nat.mul_eq_zero, or_iff_left n.denominator_ne_zero, Dyadic.numerator_eq_zero_iff]
  rw [value, value,
    Rat.mkRat_eq_iff x.magnitude.denominator_ne_zero y.magnitude.denominator_ne_zero, hmul, hmul,
    signed_eq_iff, hzero, hzero]

/-- Normal doubles are the same exactly if they stand for the same number. -/
theorem same_iff_value_eq {x y : Binary64} (hx : x.Normal) (hy : y.Normal) :
    x.same y = true ↔ x.value = y.value := by
  rw [same, decide_eq_true_eq, value_eq_iff]
  refine or_congr_right ⟨?_, ?_⟩
  · rintro rfl
    exact ⟨rfl, rfl⟩
  · rintro ⟨hsign, hratio⟩
    have hmagnitude := Dyadic.Normal.eq_of_ratio_eq hx hy hratio
    obtain ⟨a, m⟩ := x
    obtain ⟨b, n⟩ := y
    cases hsign
    cases hmagnitude
    rfl

end Binary64

namespace Number

/-- Whether a number is an integer or a normal double. -/
def Normal : Number → Prop
  | .int _ => True
  | .float x => x.Normal

private theorem double_normal {negative : Bool} {significand : Nat} {exponent : Int} {n : Number}
    (h : Literal.double negative significand exponent = .ok n) : n.Normal := by
  rw [Literal.double] at h
  split at h
  · next hmagnitude =>
    cases h
    exact Dyadic.ofDecimal_normal hmagnitude
  · cases h

private theorem integer_normal {negative : Bool} {whole : List Nat} {n : Number}
    (h : Literal.integer negative whole = .ok n) : n.Normal := by
  unfold Literal.integer at h
  generalize absorb 0 whole = absorbed at h
  dsimp only at h
  split at h
  · exact double_normal h
  · split at h
    · cases h
      trivial
    · split at h
      · cases h
        trivial
      · exact double_normal h

theorem Literal.value_normal {l : Literal} {n : Number} (h : l.value = .ok n) : n.Normal := by
  unfold Literal.value at h
  split at h
  · exact integer_normal h
  · exact double_normal h
  · split at h
    · exact double_normal h
    · split at h
      · cases h
        exact Dyadic.zero_normal
      · cases h

end Number

end LspProbe
