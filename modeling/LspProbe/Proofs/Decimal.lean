import LspProbe.CommandLine.Numeral
import LspProbe.Proofs.Json.Grammar

/-!
# Decimal digits

The digits that a natural number is printed with, and the readers that make the same number of
them again: the one for JSON literals and the one for the command line.
-/

namespace LspProbe

/-- The decimal digits of a number, the first one first. -/
def decimal (n : Nat) : List Nat := (Nat.toDigits 10 n).map fun c => c.toNat - 0x30

/-- The number that digits stand for after others. -/
def appendDigits (value : Nat) (ds : List Nat) : Nat :=
  ds.foldl (fun value d => value * 10 + d) value

private theorem le_appendDigits (value : Nat) (ds : List Nat) : value ≤ appendDigits value ds := by
  induction ds generalizing value with
  | nil => exact Nat.le_refl value
  | cons d ds ih => exact Nat.le_trans (by omega) (ih (value * 10 + d))

private theorem decimal_of_lt {n : Nat} (h : n < 10) : decimal n = [n] := by
  rw [decimal, Nat.toDigits_of_lt_base h, List.map_singleton,
    Nat.toNat_digitChar_sub_48_of_lt_ten h]

private theorem decimal_of_le {n : Nat} (h : 10 ≤ n) :
    decimal n = decimal (n / 10) ++ [n % 10] := by
  have hmod : n % 10 < 10 := Nat.mod_lt n (by decide)
  rw [decimal, Nat.toDigits_of_base_le (by decide) h, List.map_append, List.map_singleton,
    Nat.toNat_digitChar_sub_48_of_lt_ten hmod, decimal]

/-- Digits are appended to a number from its first one on. -/
theorem decimal_induct {motive : Nat → List Nat → Prop} (digit : ∀ n < 10, motive n [n])
    (more : ∀ n, 10 ≤ n → motive (n / 10) (decimal (n / 10)) →
      motive n (decimal (n / 10) ++ [n % 10])) (n : Nat) : motive n (decimal n) := by
  induction n using Nat.strongRecOn with
  | ind n ih =>
    by_cases h : n < 10
    · rw [decimal_of_lt h]
      exact digit n h
    · rw [decimal_of_le (Nat.le_of_not_lt h)]
      exact more n (Nat.le_of_not_lt h) (ih (n / 10) (by omega))

theorem appendDigits_decimal (n : Nat) : appendDigits 0 (decimal n) = n := by
  refine decimal_induct (motive := fun n ds => appendDigits 0 ds = n) ?_ ?_ n
  · intro n hn
    simp [appendDigits]
  · intro n hn ih
    rw [appendDigits] at ih
    rw [appendDigits, List.foldl_append, ih]
    simp only [List.foldl_cons, List.foldl_nil]
    omega

theorem isDigits_decimal (n : Nat) : Json.IsDigits (decimal n) := by
  refine decimal_induct (motive := fun _ ds => Json.IsDigits ds) ?_ ?_ n
  · intro n hn
    exact ⟨by simp, by simpa using hn⟩
  · intro n hn ih
    refine ⟨by simp, fun d hd => ?_⟩
    rcases List.mem_append.mp hd with hd | hd
    · exact ih.lt_ten d hd
    · rw [List.mem_singleton.mp hd]
      exact Nat.mod_lt n (by decide)

theorem eq_zero_of_head?_decimal {n : Nat} (h : (decimal n).head? = some 0) : n = 0 := by
  revert h
  refine decimal_induct (motive := fun n ds => ds.head? = some 0 → n = 0) ?_ ?_ n
  · intro n hn h
    simpa using h
  · intro n hn ih h
    obtain ⟨d, ds, hds⟩ := List.exists_cons_of_ne_nil (isDigits_decimal (n / 10)).ne_nil
    rw [hds] at ih h
    have hzero : n / 10 = 0 := ih h
    omega

theorem isWhole_decimal (n : Nat) : Json.IsWhole (decimal n) := by
  refine ⟨isDigits_decimal n, fun h => ?_⟩
  rw [eq_zero_of_head?_decimal h]
  rfl

theorem toDigits_eq_map_decimal (n : Nat) : Nat.toDigits 10 n = (decimal n).map Nat.digitChar := by
  refine decimal_induct (motive := fun n ds => Nat.toDigits 10 n = ds.map Nat.digitChar) ?_ ?_ n
  · intro n hn
    exact Nat.toDigits_of_lt_base hn
  · intro n hn ih
    rw [Nat.toDigits_of_base_le (by decide) hn, ih, List.map_append, List.map_singleton]

theorem toList_toString (n : Nat) : (toString n).toList = (decimal n).map Nat.digitChar := by
  rw [Nat.toString_eq_ofList_toDigits, String.toList_ofList, toDigits_eq_map_decimal]

theorem encode_digitChars {ds : List Nat} (h : ∀ d ∈ ds, d < 10) :
    Utf8.encode (String.ofList (ds.map Nat.digitChar)) = Json.digitBytes ds := by
  have hdigit : ∀ d < 10, String.utf8EncodeChar (Nat.digitChar d) = [Json.digitByte d] := by
    decide
  have hmap : (ds.map fun d => String.utf8EncodeChar (Nat.digitChar d)) =
      ds.map fun d => [Json.digitByte d] :=
    List.map_congr_left fun d hd => hdigit d (h d hd)
  rw [Utf8.encode, String.toList_ofList, List.flatMap_map, List.flatMap_def, hmap,
    ← List.flatMap_def, Json.digitBytes, List.map_eq_flatMap]

theorem encode_toString (n : Nat) : Utf8.encode (toString n) = Json.digitBytes (decimal n) := by
  rw [Nat.toString_eq_ofList_toDigits, toDigits_eq_map_decimal]
  exact encode_digitChars (isDigits_decimal n).lt_ten

theorem Number.absorb_eq {significand : Nat} {ds : List Nat}
    (h : appendDigits significand ds < 0x10000000000000000) :
    absorb significand ds = (appendDigits significand ds, []) := by
  induction ds generalizing significand with
  | nil => rfl
  | cons d ds ih =>
    have hle := le_appendDigits (significand * 10 + d) ds
    rw [appendDigits, List.foldl_cons] at h ⊢
    rw [appendDigits] at hle
    rw [absorb, if_pos (by omega)]
    exact ih h

namespace CommandLine

private theorem digitOf?_digitChar {d : Nat} (h : d < 10) : digitOf? (Nat.digitChar d) = some d :=
  (show ∀ d < 10, digitOf? (Nat.digitChar d) = some d by decide) d h

private theorem digitsFrom_eq {limit value : Nat} {ds : List Nat} (excess : NumeralFlaw)
    (hds : ∀ d ∈ ds, d < 10) (h : appendDigits value ds ≤ limit) :
    digitsFrom limit excess value (ds.map Nat.digitChar) = .ok (appendDigits value ds) := by
  induction ds generalizing value with
  | nil => rfl
  | cons d ds ih =>
    have hle := le_appendDigits (value * 10 + d) ds
    rw [appendDigits, List.foldl_cons] at h ⊢
    rw [appendDigits] at hle
    rw [List.map_cons, digitsFrom, digitOf?_digitChar (hds d List.mem_cons_self)]
    dsimp only
    rw [if_pos (by omega)]
    exact ih (fun e he => hds e (List.mem_cons_of_mem d he)) h

theorem digits_toString {limit n : Nat} (excess : NumeralFlaw) (h : n ≤ limit) :
    digits limit excess (toString n).toList = .ok n := by
  have hdigits := isDigits_decimal n
  have hread := digitsFrom_eq excess hdigits.lt_ten
    (show appendDigits 0 (decimal n) ≤ limit by rwa [appendDigits_decimal])
  rw [appendDigits_decimal] at hread
  rw [toList_toString]
  obtain ⟨d, ds, hds⟩ := List.exists_cons_of_ne_nil hdigits.ne_nil
  rw [hds] at hread ⊢
  exact hread

end CommandLine

end LspProbe
