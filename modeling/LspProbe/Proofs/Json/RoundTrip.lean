import LspProbe.Proofs.Json.Printing
import LspProbe.Proofs.Json.Results

/-!
# Reading back what was written

A value without doubles that was written in a layout of blanks reads back as itself, with members
in order, if it nests no deeper than a reader allows; otherwise it is refused. Its text determines
it, whatever its depth.
-/

namespace LspProbe.Json

/-- What the whole of a written value reads as, with enough nesting allowed. -/
theorem value_write {l : Layout} (hl : l.IsBlank) {v : Json} (h : Exact v) (depth : Nat)
    {n : Nat} (hn : v.depth ≤ n) :
    value n (Utf8.encode (write l depth v)) = .ok (v.ordered, []) := by
  have hread := value_isText (isText_write hl h depth hn) [] [] (by simp [Blanks])
    (by simp [EndsNumber])
  rwa [List.nil_append, List.append_nil] at hread

theorem parse_write {l : Layout} (hl : l.IsBlank) {v : Json} (h : Exact v) (depth : Nat)
    (hn : v.depth ≤ maxNesting) : parse (Utf8.encode (write l depth v)) = .ok v.ordered :=
  parse_isText (isText_write hl h depth hn)

/-- A written value reads as nothing but itself. -/
theorem eq_ordered_of_parse_write {l : Layout} (hl : l.IsBlank) {v u : Json} (h : Exact v)
    {depth : Nat} (hparse : parse (Utf8.encode (write l depth v)) = .ok u) : u = v.ordered := by
  obtain ⟨⟨w, rest⟩, hw, hparse⟩ := bind_eq_ok_iff.mp hparse
  obtain ⟨_, _, hparse⟩ := bind_eq_ok_iff.mp hparse
  cases hparse
  -- A reader that allows more nesting reads the same, and one that allows all of it reads `v`.
  have hmore := value_extends (Nat.le_max_right v.depth maxNesting) _ _ hw
  rw [value_write hl h depth (Nat.le_max_left v.depth maxNesting)] at hmore
  exact (congrArg Prod.fst (Except.ok.inj hmore)).symm

/-- Equal texts are texts of equal values. -/
theorem ordered_eq_of_write_eq {l : Layout} (hl : l.IsBlank) {v u : Json} (hv : Exact v)
    (hu : Exact u) {depth : Nat} (h : write l depth v = write l depth u) :
    v.ordered = u.ordered := by
  have hread := value_write hl hv depth (Nat.le_max_left v.depth u.depth)
  rw [h, value_write hl hu depth (Nat.le_max_right v.depth u.depth)] at hread
  exact (congrArg Prod.fst (Except.ok.inj hread)).symm

namespace Members

def Distinct (members : Members) : Prop := members.Pairwise fun m l => m.1 ≠ l.1

theorem Distinct.perm {members other : Members} (h : members.Distinct)
    (hperm : members.Perm other) : other.Distinct :=
  hperm.pairwise h Ne.symm

private theorem perm_insert {members : Members} {key : String} (value : Json)
    (h : ∀ m ∈ members, m.1 ≠ key) :
    (insert key value members).Perm ((key, value) :: members) := by
  induction members with
  | nil => exact .refl _
  | cons m rest ih =>
    obtain ⟨k, v⟩ := m
    have hk : k ≠ key := h (k, v) List.mem_cons_self
    rw [insert]
    split
    · exact .refl _
    · rw [if_neg hk.symm]
      exact ((ih fun m hm => h m (List.mem_cons_of_mem _ hm)).cons _).trans (.swap _ _ _)

private theorem perm_foldl_insert {members soFar : Members} (h : Distinct (soFar ++ members)) :
    (members.foldl (fun soFar m => insert m.1 m.2 soFar) soFar).Perm (soFar ++ members) := by
  induction members generalizing soFar with
  | nil => simp
  | cons m rest ih =>
    have hfresh : ∀ l ∈ soFar, l.1 ≠ m.1 := fun l hl =>
      (List.pairwise_append.mp h).2.2 l hl m List.mem_cons_self
    have hinsert : (insert m.1 m.2 soFar ++ rest).Perm (soFar ++ m :: rest) :=
      ((perm_insert m.2 hfresh).append_right rest).trans List.perm_middle.symm
    exact (ih (h.perm hinsert.symm)).trans hinsert

/-- With distinct keys, putting members in order only moves them. -/
theorem perm_ofList {members : Members} (h : members.Distinct) :
    (ofList members).Perm members :=
  perm_foldl_insert h

theorem get?_eq_some_iff {members : Members} (h : members.Distinct) {key : String} {v : Json} :
    get? key members = some v ↔ (key, v) ∈ members := by
  induction members with
  | nil => simp [get?]
  | cons m rest ih =>
    obtain ⟨k, u⟩ := m
    obtain ⟨hfirst, hrest⟩ := List.pairwise_cons.mp h
    rw [get?, List.mem_cons]
    by_cases hk : k = key
    · subst hk
      rw [if_pos rfl]
      constructor
      · intro heq
        exact .inl (by rw [Option.some.inj heq])
      · rintro (heq | hmem)
        · rw [(Prod.mk.inj heq).2]
        · exact absurd rfl (hfirst (k, v) hmem)
    · rw [if_neg hk, ih hrest]
      constructor
      · exact .inr
      · rintro (heq | hmem)
        · exact absurd (Prod.mk.inj heq).1.symm hk
        · exact hmem

theorem get?_ofList {members : Members} (h : members.Distinct) (key : String) :
    get? key (ofList members) = get? key members := by
  have hperm := perm_ofList h
  apply Option.ext
  intro v
  rw [get?_eq_some_iff (h.perm hperm.symm), get?_eq_some_iff h, hperm.mem_iff]

end Members

end LspProbe.Json
