import LspProbe.Proofs.Json.Acceptance
import LspProbe.Proofs.Json.Shape

/-!
# What readers give

Values that were read are in order, hold integers of 64 bits and nest no deeper than their reader
allows. A reader that allows more gives the same.
-/

namespace LspProbe

open Json

private theorem Number.absorb_lt {significand : Nat} (h : significand < 0x10000000000000000)
    (ds : List Nat) : (absorb significand ds).1 < 0x10000000000000000 := by
  induction ds generalizing significand with
  | nil => exact h
  | cons d ds ih =>
    rw [absorb]
    split
    · next hlt => exact ih hlt
    · exact h

private theorem Number.Literal.double_ne_int {negative : Bool} {significand : Nat}
    {exponent i : Int} :
    double negative significand exponent ≠ .ok (.int i) := by
  unfold double
  cases Dyadic.ofDecimal significand exponent <;> simp

private theorem Number.Literal.isWord_of_integer {negative : Bool} {whole : List Nat} {i : Int}
    (h : integer negative whole = .ok (.int i)) : IsWord i := by
  have hlt := Number.absorb_lt (show 0 < 0x10000000000000000 by decide) whole
  unfold integer at h
  generalize Number.absorb 0 whole = absorbed at h hlt
  obtain ⟨significand, surplus⟩ := absorbed
  dsimp only at h hlt
  split at h
  · exact absurd h double_ne_int
  · split at h
    · cases h
      exact ⟨by omega, by omega⟩
    · split at h
      · cases h
        exact ⟨by omega, by omega⟩
      · exact absurd h double_ne_int

private theorem Number.Literal.isWord_of_value {l : Number.Literal} {i : Int}
    (h : l.value = .ok (.int i)) : IsWord i := by
  unfold value at h
  split at h
  · exact isWord_of_integer h
  · exact absurd h double_ne_int
  · split at h
    · exact absurd h double_ne_int
    · split at h <;> cases h

namespace Json

private theorem kept_of_number {negative : Bool} {s rest : List UInt8} {n : Number}
    (h : number negative s = .ok (n, rest)) : Kept (.num n) := by
  obtain ⟨⟨l, t⟩, _, h⟩ := bind_eq_ok_iff.mp h
  dsimp only at h
  split at h
  · next hvalue =>
    cases h
    cases n with
    | int i => exact .int (Number.Literal.isWord_of_value hvalue)
    | float x => exact .float x
  · cases h

section

variable {Q : Json → Prop} {item : Reader Json}
  (hitem : ∀ s v rest, item s = .ok (v, rest) → Q v) {w : Wording}

include hitem

theorem elements_forall {budget : Nat} {s rest : List UInt8} {items : List Json}
    (h : elements w item budget s = .ok (items, rest)) : ∀ v ∈ items, Q v := by
  induction budget generalizing s items with
  | zero => cases h
  | succ budget ih =>
    obtain ⟨⟨v, t⟩, hv, h⟩ := bind_eq_ok_iff.mp h
    have hq := hitem _ _ _ hv
    dsimp only at h
    split at h
    · cases h
    · split at h
      · cases h
        simpa using hq
      · split at h
        · split at h
          · cases h
          · split at h
            · cases h
            · obtain ⟨⟨vs, u⟩, hvs, h⟩ := bind_eq_ok_iff.mp h
              cases h
              exact List.forall_mem_cons.mpr ⟨hq, ih hvs⟩
        · cases h

theorem list_forall {s rest : List UInt8} {items : List Json}
    (h : list w item s = .ok (items, rest)) : ∀ v ∈ items, Q v := by
  unfold list at h
  split at h
  · cases h
  · split at h
    · cases h
      simp
    · exact elements_forall hitem h

theorem keptMember_forall {soFar members : Members} {s rest : List UInt8}
    (h : keptMember item soFar s = .ok (members, rest)) (hsoFar : soFar.Ascending)
    (hq : ∀ m ∈ soFar, Q m.2) : members.Ascending ∧ ∀ m ∈ members, Q m.2 := by
  obtain ⟨⟨key, t⟩, _, h⟩ := bind_eq_ok_iff.mp h
  obtain ⟨u, _, h⟩ := bind_eq_ok_iff.mp h
  obtain ⟨⟨v, x⟩, hv, h⟩ := bind_eq_ok_iff.mp h
  cases h
  refine ⟨hsoFar.insert key v, fun m hm => ?_⟩
  rcases Members.mem_insert hm with rfl | hm
  · exact hitem _ _ _ hv
  · exact hq m hm

theorem members_forall {budget : Nat} {soFar ms : Members} {s rest : List UInt8}
    (h : members w (keptMember item) budget soFar s = .ok (ms, rest)) (hsoFar : soFar.Ascending)
    (hq : ∀ m ∈ soFar, Q m.2) : ms.Ascending ∧ ∀ m ∈ ms, Q m.2 := by
  induction budget generalizing soFar s with
  | zero => cases h
  | succ budget ih =>
    cases s with
    | nil => cases h
    | cons b s =>
      rw [members] at h
      split at h
      · cases h
      · obtain ⟨⟨state, t⟩, hstate, h⟩ := bind_eq_ok_iff.mp h
        obtain ⟨hascending, hq'⟩ := keptMember_forall hitem hstate hsoFar hq
        dsimp only at h
        split at h
        · cases h
        · split at h
          · cases h
            exact ⟨hascending, hq'⟩
          · split at h
            · split at h
              · cases h
              · split at h
                · cases h
                · exact ih h hascending hq'
            · cases h

theorem object_forall {ms : Members} {s rest : List UInt8}
    (h : object w (keptMember item) [] s = .ok (ms, rest)) :
    ms.Ascending ∧ ∀ m ∈ ms, Q m.2 := by
  unfold object at h
  split at h
  · cases h
  · split at h
    · cases h
      exact ⟨.nil, by simp⟩
    · exact members_forall hitem h .nil (by simp)

end

/-- What a value was read as. -/
inductive ReadAs (nested : Option (Reader Json)) (rest : List UInt8) : Json → Prop
  | null : ReadAs nested rest .null
  | bool (b : Bool) : ReadAs nested rest (.bool b)
  | num {negative : Bool} {s : List UInt8} {n : Number} (h : number negative s = .ok (n, rest)) :
      ReadAs nested rest (.num n)
  | str (s : String) : ReadAs nested rest (.str s)
  | arr {item : Reader Json} {items : List Json} {s : List UInt8} (hnested : nested = some item)
      (h : list .keeping item s = .ok (items, rest)) : ReadAs nested rest (.arr items)
  | obj {item : Reader Json} {ms : Members} {s : List UInt8} (hnested : nested = some item)
      (h : object .keeping (keptMember item) [] s = .ok (ms, rest)) :
      ReadAs nested rest (.obj ms)

theorem valueWith_readAs {nested : Option (Reader Json)} {s rest : List UInt8} {v : Json}
    (h : valueWith nested s = .ok (v, rest)) : ReadAs nested rest v := by
  unfold valueWith at h
  split at h
  · cases h
  · split at h
    · obtain ⟨t, _, h⟩ := bind_eq_ok_iff.mp h
      cases h
      exact .null
    · split at h
      · obtain ⟨t, _, h⟩ := bind_eq_ok_iff.mp h
        cases h
        exact .bool true
      · split at h
        · obtain ⟨t, _, h⟩ := bind_eq_ok_iff.mp h
          cases h
          exact .bool false
        · split at h
          · obtain ⟨⟨n, t⟩, hn, h⟩ := bind_eq_ok_iff.mp h
            cases h
            exact .num hn
          · split at h
            · obtain ⟨⟨n, t⟩, hn, h⟩ := bind_eq_ok_iff.mp h
              cases h
              exact .num hn
            · split at h
              · obtain ⟨⟨text, t⟩, _, h⟩ := bind_eq_ok_iff.mp h
                cases h
                exact .str text
              · split at h
                · split at h
                  · cases h
                  · obtain ⟨⟨items, t⟩, hitems, h⟩ := bind_eq_ok_iff.mp h
                    cases h
                    exact .arr rfl hitems
                · split at h
                  · split at h
                    · cases h
                    · obtain ⟨⟨ms, t⟩, hms, h⟩ := bind_eq_ok_iff.mp h
                      cases h
                      exact .obj rfl hms
                  · cases h

theorem ReadAs.kept {nested : Option (Reader Json)} {rest : List UInt8} {v : Json} {n : Nat}
    (h : ReadAs nested rest v)
    (hnested : ∀ item, nested = some item → ∃ m, n = m + 1 ∧
      ∀ s u rest, item s = .ok (u, rest) → Kept u ∧ u.depth ≤ m) : Kept v ∧ v.depth ≤ n := by
  cases h with
  | null => exact ⟨.null, Nat.zero_le n⟩
  | bool b => exact ⟨.bool b, Nat.zero_le n⟩
  | num h => exact ⟨kept_of_number h, Nat.zero_le n⟩
  | str s => exact ⟨.str s, Nat.zero_le n⟩
  | arr hsome h =>
    obtain ⟨m, rfl, hitem⟩ := hnested _ hsome
    have hitems := list_forall hitem h
    exact ⟨.arr fun v hv => (hitems v hv).1, depth_arr_le_iff.mpr fun v hv => (hitems v hv).2⟩
  | obj hsome h =>
    obtain ⟨m, rfl, hitem⟩ := hnested _ hsome
    obtain ⟨hascending, hms⟩ := object_forall hitem h
    exact ⟨.obj hascending fun m hm => (hms m hm).1,
      depth_obj_le_iff.mpr fun m hm => (hms m hm).2⟩

theorem value_kept {n : Nat} {s rest : List UInt8} {v : Json} (h : value n s = .ok (v, rest)) :
    Kept v ∧ v.depth ≤ n := by
  induction n generalizing s rest v with
  | zero => exact (valueWith_readAs h).kept fun item hitem => nomatch hitem
  | succ n ih =>
    refine (valueWith_readAs h).kept fun item hitem => ⟨n, rfl, ?_⟩
    cases hitem
    exact fun s u rest hu => ih hu

theorem parse_kept {s : List UInt8} {v : Json} (h : parse s = .ok v) :
    Kept v ∧ v.depth ≤ maxNesting := by
  obtain ⟨⟨u, rest⟩, hu, h⟩ := bind_eq_ok_iff.mp h
  obtain ⟨_, _, h⟩ := bind_eq_ok_iff.mp h
  cases h
  exact value_kept hu

/-- A reader gives all that another one gives. -/
def Extends {α : Type} (reader other : Reader α) : Prop :=
  ∀ s r, reader s = .ok r → other s = .ok r

theorem Extends.bind {α β : Type} {reader other : Reader α}
    {f g : α × List UInt8 → Except Fault (β × List UInt8)} (h : Extends reader other)
    (hfg : ∀ a r, f a = .ok r → g a = .ok r) {s : List UInt8} {r : β × List UInt8}
    (hr : reader s >>= f = .ok r) : other s >>= g = .ok r := by
  obtain ⟨a, ha, hr⟩ := bind_eq_ok_iff.mp hr
  exact bind_eq_ok_iff.mpr ⟨a, h s a ha, hfg a r hr⟩

section

variable {item other : Reader Json} {w : Wording}

theorem Extends.elements (h : Extends item other) (budget : Nat) :
    Extends (elements w item budget) (Json.elements w other budget) := by
  induction budget with
  | zero =>
    intro s r hr
    cases hr
  | succ budget ih =>
    intro s r hr
    refine h.bind (fun a r hr => ?_) hr
    dsimp only at hr ⊢
    split at hr
    · cases hr
    · split at hr
      · next hb => rw [if_pos hb]; exact hr
      · next hb =>
        rw [if_neg hb]
        split at hr
        · next hcomma =>
          rw [if_pos hcomma]
          split at hr
          · cases hr
          · split at hr
            · cases hr
            · next hc =>
              rw [if_neg hc]
              exact ih.bind (fun a r hr => hr) hr
        · cases hr

theorem Extends.list (h : Extends item other) : Extends (list w item) (Json.list w other) := by
  intro s r hr
  unfold Json.list at hr ⊢
  split at hr
  · cases hr
  · split at hr
    · next hb => rw [if_pos hb]; exact hr
    · next hb => rw [if_neg hb]; exact h.elements _ _ _ hr

theorem Extends.keptMember (h : Extends item other) (soFar : Members) :
    Extends (keptMember item soFar) (Json.keptMember other soFar) := by
  intro s r hr
  obtain ⟨a, ha, hr⟩ := bind_eq_ok_iff.mp hr
  obtain ⟨t, ht, hr⟩ := bind_eq_ok_iff.mp hr
  rw [Json.keptMember, ha, ok_bind]
  dsimp only
  rw [ht, ok_bind]
  exact h.bind (fun a r hr => hr) hr

theorem Extends.members (h : Extends item other) (budget : Nat) (soFar : Members) :
    Extends (members w (Json.keptMember item) budget soFar)
      (Json.members w (Json.keptMember other) budget soFar) := by
  induction budget generalizing soFar with
  | zero =>
    intro s r hr
    cases hr
  | succ budget ih =>
    intro s r hr
    cases s with
    | nil => cases hr
    | cons b s =>
      rw [Json.members] at hr ⊢
      split at hr
      · cases hr
      · next hquote =>
        rw [if_neg hquote]
        refine (h.keptMember soFar).bind (fun a r hr => ?_) hr
        dsimp only at hr ⊢
        split at hr
        · cases hr
        · split at hr
          · next hb => rw [if_pos hb]; exact hr
          · next hb =>
            rw [if_neg hb]
            split at hr
            · next hcomma =>
              rw [if_pos hcomma]
              split at hr
              · cases hr
              · split at hr
                · cases hr
                · next hc => rw [if_neg hc]; exact ih _ _ _ hr
            · cases hr

theorem Extends.object (h : Extends item other) (soFar : Members) :
    Extends (object w (Json.keptMember item) soFar)
      (Json.object w (Json.keptMember other) soFar) := by
  intro s r hr
  unfold Json.object at hr ⊢
  split at hr
  · cases hr
  · split at hr
    · next hb => rw [if_pos hb]; exact hr
    · next hb => rw [if_neg hb]; exact h.members _ _ _ _ hr

/-- Lists and objects alone depend on the reader of items. -/
private theorem valueWith_eq_of_ne {s t : List UInt8} {b : UInt8} (h : skipBlanks s = b :: t)
    (hbracket : b ≠ Ascii.openBracket) (hbrace : b ≠ Ascii.openBrace)
    (nested nested' : Option (Reader Json)) : valueWith nested s = valueWith nested' s := by
  unfold valueWith
  rw [h]
  simp only [if_neg hbracket, if_neg hbrace]

theorem Extends.valueWith {nested : Option (Reader Json)}
    (h : ∀ item, nested = some item → Extends item other) :
    Extends (valueWith nested) (Json.valueWith (some other)) := by
  intro s r hr
  cases hs : skipBlanks s with
  | nil =>
    rw [Json.valueWith, hs] at hr
    cases hr
  | cons b t =>
    by_cases hbracket : b = Ascii.openBracket
    · subst hbracket
      rw [valueWith_bracket _ hs] at hr ⊢
      cases nested with
      | none => cases hr
      | some item => exact (h item rfl).list.bind (fun a r hr => hr) hr
    · by_cases hbrace : b = Ascii.openBrace
      · subst hbrace
        rw [valueWith_brace _ hs] at hr ⊢
        cases nested with
        | none => cases hr
        | some item => exact ((h item rfl).object []).bind (fun a r hr => hr) hr
      · rw [← valueWith_eq_of_ne hs hbracket hbrace nested]
        exact hr

end

private theorem value_extends_succ (n : Nat) : Extends (value n) (value (n + 1)) := by
  induction n with
  | zero => exact Extends.valueWith fun item hitem => nomatch hitem
  | succ n ih =>
    refine Extends.valueWith fun item hitem => ?_
    cases hitem
    exact ih

/-- What a reader gives, one that allows more nesting gives too. -/
theorem value_extends {n m : Nat} (h : n ≤ m) : Extends (value n) (value m) := by
  induction h with
  | refl => exact fun s r hr => hr
  | step h ih => exact fun s r hr => value_extends_succ _ s r (ih s r hr)

end Json

end LspProbe
