import LspProbe.Binary64.Shortest
import LspProbe.Json.Printer
import LspProbe.Proofs.Decimal
import LspProbe.Proofs.Json.Shape

/-!
# Characters of texts

What characters the texts of numbers and values are made of. Values are written without any
control character, on one line if the layout puts none between tokens.
-/

namespace LspProbe.Text

/-- A text has only characters of a class. -/
def Only (P : Char → Prop) (s : String) : Prop := ∀ c ∈ s.toList, P c

instance (P : Char → Prop) [DecidablePred P] (s : String) : Decidable (Only P s) :=
  List.decidableBAll P s.toList

/-- A class is checked on the members of a list one by one. -/
theorem forall_mem_of_all {α : Type} {P : α → Prop} [DecidablePred P] {l : List α}
    (h : l.all (P ·) = true) : ∀ a ∈ l, P a := by
  intro a ha
  exact of_decide_eq_true (List.all_eq_true.mp h a ha)

section

variable {P Q : Char → Prop}

@[simp] theorem only_append {s t : String} : Only P (s ++ t) ↔ Only P s ∧ Only P t := by
  simp only [Only, String.toList_append, List.forall_mem_append]

@[simp] theorem only_ofList {cs : List Char} : Only P (String.ofList cs) ↔ ∀ c ∈ cs, P c := by
  simp only [Only, String.toList_ofList]

/-- A literal is checked on the list of its characters. -/
theorem only_literal [DecidablePred P] {s : String} {cs : List Char} (hs : s = String.ofList cs)
    (h : cs.all (P ·) = true) : Only P s := by
  rw [hs, only_ofList]
  exact forall_mem_of_all h

@[simp] theorem only_empty : Only P "" := by simp [Only]

theorem Only.mono {s : String} (h : Only P s) (hPQ : ∀ c, P c → Q c) : Only Q s :=
  fun c hc => hPQ c (h c hc)

theorem forall_mem_intercalate {separator : List Char} (hseparator : ∀ c ∈ separator, P c)
    {parts : List (List Char)} (h : ∀ part ∈ parts, ∀ c ∈ part, P c) :
    ∀ c ∈ List.intercalate separator parts, P c := by
  induction parts with
  | nil => simp [List.intercalate]
  | cons part rest ih =>
    have hpart := h part List.mem_cons_self
    have hrest := ih fun other hother => h other (List.mem_cons_of_mem part hother)
    cases rest with
    | nil => simpa [List.intercalate] using hpart
    | cons other rest =>
      simp only [List.intercalate, List.intersperse_cons_cons, List.flatten_cons,
        List.forall_mem_append] at hrest ⊢
      exact ⟨hpart, hseparator, hrest⟩

theorem only_intercalate {separator : String} (hseparator : Only P separator)
    {parts : List String} (h : ∀ s ∈ parts, Only P s) :
    Only P (String.intercalate separator parts) := by
  rw [Only, String.toList_intercalate]
  apply forall_mem_intercalate hseparator
  intro part hpart
  obtain ⟨s, hs, rfl⟩ := List.mem_map.mp hpart
  exact h s hs

/-- The printable characters of ASCII. -/
def IsGraphic (c : Char) : Prop := 0x20 ≤ c.toNat ∧ c.toNat < 0x7F

instance : DecidablePred IsGraphic := fun c =>
  inferInstanceAs (Decidable (0x20 ≤ c.toNat ∧ c.toNat < 0x7F))

theorem IsGraphic.ne_newline {c : Char} (h : IsGraphic c) : c ≠ '\n' := by
  rintro rfl
  exact absurd h (by decide)

theorem only_ne_iff {c : Char} {s : String} : Only (· ≠ c) s ↔ c ∉ s.toList := by
  simp only [Only, ne_eq]
  exact ⟨fun h hc => h c hc rfl, fun h d hd heq => h (heq ▸ hd)⟩

theorem Only.newline_not_mem {s : String} (h : Only IsGraphic s) : '\n' ∉ s.toList :=
  only_ne_iff.mp (h.mono fun _ => IsGraphic.ne_newline)

theorem forall_mem_toDigits {base : Nat} (hbase : 1 < base)
    (hdigit : ∀ d < base, P (Nat.digitChar d)) (n : Nat) : ∀ c ∈ Nat.toDigits base n, P c := by
  induction n using Nat.strongRecOn with
  | ind n ih =>
    intro c hc
    by_cases h : n < base
    · rw [Nat.toDigits_of_lt_base h, List.mem_singleton] at hc
      rw [hc]
      exact hdigit n h
    · have hle : base ≤ n := Nat.le_of_not_lt h
      rw [Nat.toDigits_of_base_le hbase hle] at hc
      rcases List.mem_append.mp hc with hc | hc
      · exact ih (n / base) (Nat.div_lt_self (by omega) hbase) c hc
      · rw [List.mem_singleton.mp hc]
        exact hdigit _ (Nat.mod_lt n (by omega))

variable (hdigit : ∀ d < 10, P (Nat.digitChar d))

include hdigit

theorem only_toString (n : Nat) : Only P (toString n) := by
  rw [Nat.toString_eq_ofList_toDigits, only_ofList]
  exact forall_mem_toDigits (by decide) hdigit n

private theorem only_toString_int (hminus : P '-') (i : Int) : Only P (toString i) := by
  rw [Int.toString_eq_repr, Int.repr_eq_if]
  split
  · rw [← Nat.toString_eq_repr]
    exact only_toString hdigit i.toNat
  · rw [← Nat.toString_eq_repr]
    exact only_append.mpr ⟨by simpa [Only] using hminus, only_toString hdigit _⟩

private theorem only_magnitudeText (hmarks : ∀ c ∈ ['.', 'e', '+', '-'], P c) (d : Decimal) :
    Only P (Binary64.magnitudeText d) := by
  have hdigits := forall_mem_toDigits (by decide) hdigit d.digits
  have hzeros (n : Nat) : Only P (Binary64.zeros n) := by
    rw [Binary64.zeros, only_ofList]
    intro c hc
    rw [(List.mem_replicate.mp hc).2]
    exact hdigit 0 (by decide)
  have hpoint : P '.' := hmarks '.' (by simp)
  have he : P 'e' := hmarks 'e' (by simp)
  have hplus : P '+' := hmarks '+' (by simp)
  have hminus : P '-' := hmarks '-' (by simp)
  have hzero : P '0' := hdigit 0 (by decide)
  unfold Binary64.magnitudeText
  dsimp only
  split
  · split
    · exact only_append.mpr ⟨only_append.mpr ⟨only_ofList.mpr hdigits, hzeros _⟩,
        by simp [Only, hpoint, hzero]⟩
    · split
      · rw [List.splitAt_eq]
        refine only_append.mpr ⟨only_append.mpr ⟨only_ofList.mpr ?_, by simp [Only, hpoint]⟩,
          only_ofList.mpr ?_⟩
        · exact fun c hc => hdigits c (List.mem_of_mem_take hc)
        · exact fun c hc => hdigits c (List.mem_of_mem_drop hc)
      · exact only_append.mpr ⟨only_append.mpr ⟨by simp [Only, hpoint, hzero], hzeros _⟩,
          only_ofList.mpr hdigits⟩
  · have hfraction : Only P (if (Nat.toDigits 10 d.digits).length ≤ 1 then ""
        else "." ++ String.ofList ((Nat.toDigits 10 d.digits).drop 1)) := by
      split
      · exact only_empty
      · refine only_append.mpr ⟨by simp [Only, hpoint], only_ofList.mpr ?_⟩
        exact fun c hc => hdigits c (List.mem_of_mem_drop hc)
    have hsign (b : Prop) [Decidable b] : Only P (if b then "-" else "+") := by
      split
      · simp [Only, hminus]
      · simp [Only, hplus]
    simp only [only_append]
    refine ⟨⟨⟨⟨only_ofList.mpr ?_, hfraction⟩, by simp [Only, he]⟩, hsign _⟩,
      only_toString hdigit _⟩
    exact fun c hc => hdigits c (List.mem_of_mem_take hc)

private theorem only_number (hmarks : ∀ c ∈ ['.', 'e', '+', '-'], P c) (n : Number) :
    Only P n.text := by
  have hminus : P '-' := hmarks '-' (by simp)
  cases n with
  | int i => exact only_toString_int hdigit hminus i
  | float x =>
    have hsign : Only P (if x.negative then "-" else "") := by
      split
      · simp [Only, hminus]
      · exact only_empty
    exact only_append.mpr ⟨hsign, only_magnitudeText hdigit hmarks _⟩

end

end LspProbe.Text

namespace LspProbe.Json

open Text

/-- A character that is no control of the first kind. -/
def IsShown (c : Char) : Prop := 0x20 ≤ c.toNat

instance : DecidablePred IsShown := fun c => inferInstanceAs (Decidable (0x20 ≤ c.toNat))

private theorem isShown_escape (c : Char) : ∀ d ∈ escape c, IsShown d := by
  unfold escape
  -- First come the seven characters that have an escape of one letter.
  iterate 7
    split
    · exact forall_mem_of_all (by decide)
  split
  · next hc =>
    have hhex : ∀ n < 16, IsShown (hexChar n) := by decide
    have hhigh := hhex (c.toNat / 16) (by omega)
    have hlow := hhex (c.toNat % 16) (by omega)
    simp only [List.forall_mem_cons]
    exact ⟨by decide, by decide, by decide, by decide, hhigh, hlow, by simp⟩
  · next hc =>
    intro d hd
    rw [List.mem_singleton.mp hd]
    exact Nat.le_of_not_lt hc

private theorem only_isShown_quoted (s : String) : Only IsShown (quoted s) := by
  have hquote : Only IsShown "\"" := by decide
  refine only_append.mpr ⟨only_append.mpr ⟨hquote, only_ofList.mpr ?_⟩, hquote⟩
  intro c hc
  obtain ⟨d, _, hd⟩ := List.mem_flatMap.mp hc
  exact isShown_escape d c hd

section

variable {l : Layout} (hgap : ∀ depth, Only IsShown (l.gap depth))

include hgap

private theorem only_isShown_bracket {opening closing : String} (hopening : Only IsShown opening)
    (hclosing : Only IsShown closing) (depth : Nat) {items : List String}
    (hitems : ∀ s ∈ items, Only IsShown s) :
    Only IsShown (l.bracket depth opening closing items) := by
  have hcomma : Only IsShown "," := by decide
  rw [Layout.bracket]
  split
  · exact only_append.mpr ⟨hopening, hclosing⟩
  · simp only [only_append]
    exact ⟨⟨⟨⟨hopening, hgap _⟩, only_intercalate (only_append.mpr ⟨hcomma, hgap _⟩) hitems⟩,
      hgap _⟩, hclosing⟩

/-- A layout of shown characters writes no other ones. -/
theorem only_isShown_write (hcolon : Only IsShown l.afterColon) (v : Json) (depth : Nat) :
    Only IsShown (write l depth v) := by
  induction v using induct generalizing depth with
  | null => rw [write]; decide
  | bool b => cases b <;> rw [write] <;> decide
  | num n =>
    rw [write]
    exact only_number (by decide) (forall_mem_of_all (by decide)) n
  | str s =>
    rw [write]
    exact only_isShown_quoted s
  | arr items ih =>
    rw [write, writeItems_eq_map]
    refine only_isShown_bracket hgap (by decide) (by decide) depth fun s hs => ?_
    obtain ⟨v, hv, rfl⟩ := List.mem_map.mp hs
    exact ih v hv (depth + 1)
  | obj members ih =>
    rw [write, writeMembers_eq_map]
    refine only_isShown_bracket hgap (by decide) (by decide) depth fun s hs => ?_
    obtain ⟨m, hm, rfl⟩ := List.mem_map.mp hs
    simp only [only_append]
    exact ⟨⟨⟨only_isShown_quoted m.1, by decide⟩, hcolon⟩, ih m hm (depth + 1)⟩

end

theorem only_isShown_compact (v : Json) : Only IsShown v.compact :=
  only_isShown_write (fun _ => only_empty) only_empty v 0

end LspProbe.Json
