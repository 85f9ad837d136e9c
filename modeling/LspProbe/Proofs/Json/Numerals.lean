import LspProbe.Proofs.Decimal
import LspProbe.Proofs.Json.Soundness

/-!
# Texts by their numbers

Two rules for the numbers of a text. `IsNumeral` takes every spelling of a number and says nothing
of its value; `IsIntegral` takes integers of 64 bits and says what they stand for by their digits
alone. Accepted texts lie between the two, and all of them are UTF-8.
-/

namespace LspProbe.Json

/-- A number as JSON spells it, with or without a minus. -/
inductive IsNumeral : List UInt8 → Prop
  | positive {l : Number.Literal} {s : List UInt8} (h : IsLiteral l s) : IsNumeral s
  | negative {l : Number.Literal} {s : List UInt8} (h : IsLiteral l s) :
      IsNumeral (Ascii.minus :: s)

/-- An integer that 64 bits hold, with its sign or without one. A zero with a minus is a double. -/
inductive IsIntegral : Number → List UInt8 → Prop
  | natural {ds : List Nat} (h : IsWhole ds) (hmax : appendDigits 0 ds < 0x10000000000000000) :
      IsIntegral (.int (appendDigits 0 ds)) (digitBytes ds)
  | negative {ds : List Nat} (h : IsWhole ds) (hpos : 0 < appendDigits 0 ds)
      (hmin : appendDigits 0 ds ≤ 0x8000000000000000) :
      IsIntegral (.int (-appendDigits 0 ds)) (Ascii.minus :: digitBytes ds)
  | negativeZero : IsIntegral (.float (.zero true)) [Ascii.minus, Ascii.zero]

private theorem isNumeral_of_isScalar {n : Number} {s : List UInt8} (h : IsScalar (.num n) s) :
    IsNumeral s := by
  cases h with
  | positive hl _ _ => exact .positive hl
  | negative hl _ _ => exact .negative hl

theorem isScalar_of_isIntegral {n : Number} {s : List UInt8} (h : IsIntegral n s) :
    IsScalar (.num n) s := by
  cases h with
  | @natural ds h hmax =>
    refine .positive (isLiteral_whole false h) rfl ?_
    simp [Number.Literal.value, Number.Literal.integer, Number.absorb_eq hmax]
  | @negative ds h hpos hmin =>
    have hmax : appendDigits 0 ds < 0x10000000000000000 := by omega
    refine .negative (isLiteral_whole true h) rfl ?_
    simp only [Number.Literal.value, Number.Literal.integer, Number.absorb_eq hmax, ne_eq,
      not_true_eq_false, if_false, if_pos (And.intro hpos hmin)]
  | negativeZero =>
    have hwhole : IsWhole [0] := ⟨⟨by simp, by simp⟩, by simp⟩
    have hzero : Dyadic.ofDecimal 0 0 = some .zero := by decide +kernel
    refine .negative (isLiteral_whole true hwhole) rfl ?_
    simp [Number.Literal.value, Number.Literal.integer, Number.absorb, Number.Literal.double,
      hzero, Binary64.zero]

theorem parse_of_integral {v : Json} {s : List UInt8}
    (h : Padded (IsTextBy IsIntegral 127 v) s) : parse s = .ok v := by
  have hintegral (v : Json) (t : List UInt8) (ht : IsTextBy IsIntegral 127 v t) :
      IsText maxNesting v t := ht.isText fun n u hu => isScalar_of_isIntegral hu
  exact parse_eq_ok_iff.mpr (h.mono hintegral)

theorem isTextBy_of_parse {v : Json} {s : List UInt8} (h : parse s = .ok v) :
    Padded (IsTextBy (fun _ => IsNumeral) 127 v) s := by
  have hnumeral (v : Json) (t : List UInt8) (ht : IsText maxNesting v t) :
      IsTextBy (fun _ => IsNumeral) 127 v t := ht.isTextBy fun n u hu => isNumeral_of_isScalar hu
  exact (parse_eq_ok_iff.mp h).mono hnumeral

/-- Bytes that encode a text. -/
def IsUtf8 (s : List UInt8) : Prop := ∃ text, Utf8.encode text = s

private theorem isUtf8_utf8EncodeChar (c : Char) : IsUtf8 (String.utf8EncodeChar c) :=
  ⟨String.ofList [c], by simp [Utf8.encode]⟩

theorem IsUtf8.append {s t : List UInt8} (hs : IsUtf8 s) (ht : IsUtf8 t) : IsUtf8 (s ++ t) := by
  obtain ⟨text, rfl⟩ := hs
  obtain ⟨more, rfl⟩ := ht
  exact ⟨text ++ more, Utf8.encode_append text more⟩

private theorem isUtf8_singleton {b : UInt8} (h : b < 0x80) : IsUtf8 [b] := by
  have hchar : Utf8.char1? b = some (Char.ofNat b.toNat) := if_pos h
  rw [← Utf8.utf8EncodeChar_of_char1? hchar]
  exact isUtf8_utf8EncodeChar _

theorem IsUtf8.cons {b : UInt8} {s : List UInt8} (hb : b < 0x80) (hs : IsUtf8 s) :
    IsUtf8 (b :: s) := (isUtf8_singleton hb).append hs

private theorem isUtf8_of_ascii {s : List UInt8} (h : s.all (· < 0x80) = true) : IsUtf8 s := by
  induction s with
  | nil => exact ⟨"", rfl⟩
  | cons b s ih =>
    rw [List.all_cons, Bool.and_eq_true, decide_eq_true_eq] at h
    exact .cons h.1 (ih h.2)

theorem Blanks.isUtf8 {s : List UInt8} (h : Blanks s) : IsUtf8 s := by
  apply isUtf8_of_ascii
  rw [List.all_eq_true]
  intro b hb
  have hblank := h b hb
  simp only [isBlank, Bool.or_eq_true, decide_eq_true_eq] at hblank
  rcases hblank with ((rfl | rfl) | rfl) | rfl <;> decide

private theorem isUtf8_digitBytes {ds : List Nat} (h : ∀ d ∈ ds, d < 10) :
    IsUtf8 (digitBytes ds) := by
  have hdigit : ∀ d < 10, digitByte d < 0x80 := by decide
  apply isUtf8_of_ascii
  rw [List.all_eq_true]
  intro b hb
  obtain ⟨d, hd, rfl⟩ := List.mem_map.mp hb
  exact decide_eq_true (hdigit d (h d hd))

theorem IsFraction.isUtf8 {ds : List Nat} {s : List UInt8} (h : IsFraction ds s) : IsUtf8 s := by
  cases h with
  | absent => exact ⟨"", rfl⟩
  | point hds => exact .cons (by decide) (isUtf8_digitBytes hds.lt_ten)

theorem IsPower.isUtf8 {p : Option Number.Power} {s : List UInt8} (h : IsPower p s) :
    IsUtf8 s := by
  cases h with
  | absent => exact ⟨"", rfl⟩
  | @mark e negative sign ds he hsign hds =>
    have hmark : e < 0x80 := by rcases he with rfl | rfl <;> decide
    have hsign : IsUtf8 sign := by cases hsign <;> exact isUtf8_of_ascii (by decide)
    exact .cons hmark (hsign.append (isUtf8_digitBytes hds.lt_ten))

theorem IsLiteral.isUtf8 {l : Number.Literal} {s : List UInt8} (h : IsLiteral l s) : IsUtf8 s := by
  cases h with
  | mk hwhole hfraction hpower =>
    exact (isUtf8_digitBytes hwhole.lt_ten).append (hfraction.isUtf8.append hpower.isUtf8)

theorem IsUnit.isUtf8 {u : Nat} {s : List UInt8} (h : IsUnit u s) : IsUtf8 s := by
  have hhex {b : UInt8} {d : Nat} (h : Ascii.hexDigit? b = some d) : b < 0x80 := by
    apply Decidable.byContradiction
    intro hb
    rw [UInt8.lt_iff_toNat_lt] at hb
    have hb : ¬b.toNat < 0x80 := hb
    simp only [Ascii.hexDigit?, UInt8.le_iff_toNat_le] at h
    rw [if_neg, if_neg, if_neg] at h
    · cases h
    · rintro ⟨_, hle⟩
      have hle : b.toNat ≤ 0x66 := hle
      omega
    · rintro ⟨_, hle⟩
      have hle : b.toNat ≤ 0x46 := hle
      omega
    · rintro ⟨_, hle⟩
      have hle : b.toNat ≤ 0x39 := hle
      omega
  cases h with
  | mk ha hb hc hd =>
    exact .cons (hhex ha) (.cons (hhex hb) (.cons (hhex hc) (isUtf8_singleton (hhex hd))))

theorem IsContent.isUtf8 {cs : List Char} {s : List UInt8} (h : IsContent cs s) : IsUtf8 s := by
  induction h with
  | nil => exact ⟨"", rfl⟩
  | plain _ _ _ _ ih => exact (isUtf8_utf8EncodeChar _).append ih
  | letter hb _ ih =>
    refine .cons (by decide) (.cons ?_ ih)
    cases hb <;> decide
  | unit hu _ _ ih => exact .cons (by decide) (.cons (by decide) (hu.isUtf8.append ih))
  | pair hhigh _ hlow _ _ ih =>
    refine .cons (by decide) (.cons (by decide) (hhigh.isUtf8.append ?_))
    exact .cons (by decide) (.cons (by decide) (hlow.isUtf8.append ih))

theorem IsQuoted.isUtf8 {text : String} {s : List UInt8} (h : IsQuoted text s) : IsUtf8 s := by
  cases h with
  | mk h => exact .cons (by decide) (h.isUtf8.append (isUtf8_singleton (by decide)))

theorem Padded.isUtf8 {P : List UInt8 → Prop} (hP : ∀ s, P s → IsUtf8 s) {s : List UInt8}
    (h : Padded P s) : IsUtf8 s := by
  cases h with
  | mk hbefore h hafter => exact hbefore.isUtf8.append ((hP _ h).append hafter.isUtf8)

theorem Separated.isUtf8 {α : Type} {Q : α → List UInt8 → Prop} (hQ : ∀ a s, Q a s → IsUtf8 s)
    {as : List α} {s : List UInt8} (h : Separated Q as s) : IsUtf8 s := by
  induction h with
  | last h => exact hQ _ _ h
  | more h _ ih => exact (hQ _ _ h).append (.cons (by decide) ih)

theorem IsMember.isUtf8 {P : Json → List UInt8 → Prop} (hP : ∀ v s, P v s → IsUtf8 s)
    {m : String × Json} {s : List UInt8} (h : IsMember P m s) : IsUtf8 s := by
  cases h with
  | mk hkey hvalue =>
    exact (hkey.isUtf8 fun s hs => hs.isUtf8).append (.cons (by decide) (hvalue.isUtf8 (hP _)))

theorem IsContainer.isUtf8 {P : Json → List UInt8 → Prop} (hP : ∀ v s, P v s → IsUtf8 s)
    {v : Json} {s : List UInt8} (h : IsContainer P v s) : IsUtf8 s := by
  have hclose {b c : UInt8} {t : List UInt8} (hb : b < 0x80) (hc : c < 0x80) (ht : IsUtf8 t) :
      IsUtf8 (b :: (t ++ [c])) := .cons hb (ht.append (isUtf8_singleton hc))
  cases h with
  | emptyList h => exact hclose (by decide) (by decide) h.isUtf8
  | list h =>
    exact hclose (by decide) (by decide) (h.isUtf8 fun v s hv => hv.isUtf8 (hP v))
  | emptyObject h => exact hclose (by decide) (by decide) h.isUtf8
  | object h => exact hclose (by decide) (by decide) (h.isUtf8 fun m s hm => hm.isUtf8 hP)

theorem IsScalar.isUtf8 {v : Json} {s : List UInt8} (h : IsScalar v s) : IsUtf8 s := by
  cases h with
  | null => exact isUtf8_of_ascii (by decide)
  | true => exact isUtf8_of_ascii (by decide)
  | false => exact isUtf8_of_ascii (by decide)
  | positive hl _ _ => exact hl.isUtf8
  | negative hl _ _ => exact .cons (by decide) hl.isUtf8
  | str h => exact h.isUtf8

theorem IsText.isUtf8 {n : Nat} {v : Json} {s : List UInt8} (h : IsText n v s) : IsUtf8 s := by
  induction n generalizing v s with
  | zero => exact IsScalar.isUtf8 h
  | succ n ih =>
    rcases h with h | h
    · exact h.isUtf8
    · exact h.isUtf8 fun v s hv => ih hv

theorem isUtf8_of_parse {v : Json} {s : List UInt8} (h : parse s = .ok v) : IsUtf8 s :=
  (parse_eq_ok_iff.mp h).isUtf8 fun _ hs => hs.isUtf8

end LspProbe.Json
