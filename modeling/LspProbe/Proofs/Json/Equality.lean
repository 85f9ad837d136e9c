import LspProbe.Proofs.Json.Shape

/-!
# Equality of values

Values without doubles are equal exactly if they are the same, so what a text stands for can be
checked by comparing values.
-/

namespace LspProbe.Json

theorem sameItems_iff {items : List Json} (h : ∀ v ∈ items, ∀ u, v.same u = true ↔ v = u)
    (others : List Json) : sameItems items others = true ↔ items = others := by
  induction items generalizing others with
  | nil => cases others <;> simp [sameItems]
  | cons v rest ih =>
    have hrest := ih fun u hu => h u (List.mem_cons_of_mem v hu)
    cases others with
    | nil => simp [sameItems]
    | cons u others =>
      simp only [sameItems, Bool.and_eq_true, h v List.mem_cons_self, hrest, List.cons.injEq]

theorem sameMembers_iff {members : Members}
    (h : ∀ m ∈ members, ∀ u, m.2.same u = true ↔ m.2 = u) (others : Members) :
    sameMembers members others = true ↔ members = others := by
  induction members generalizing others with
  | nil => cases others <;> simp [sameMembers]
  | cons m rest ih =>
    obtain ⟨k, v⟩ := m
    have hv : ∀ u, v.same u = true ↔ v = u := h (k, v) List.mem_cons_self
    have hrest := ih fun l hl => h l (List.mem_cons_of_mem (k, v) hl)
    cases others with
    | nil => simp [sameMembers]
    | cons l others =>
      obtain ⟨k', u⟩ := l
      simp only [sameMembers, Bool.and_eq_true, beq_iff_eq, hv, hrest, List.cons.injEq,
        Prod.mk.injEq]

theorem same_iff {v : Json} (h : v.isFloatFree = true) (u : Json) :
    v.same u = true ↔ v = u := by
  induction v using induct generalizing u with
  | null => cases u <;> simp [same]
  | bool b => cases u <;> simp [same]
  | num n =>
    cases n with
    | int i =>
      cases u with
      | num m => cases m <;> simp [same, Number.same]
      | _ => simp [same]
    | float x => cases h
  | str s => cases u <;> simp [same]
  | arr items ih =>
    have hitems := areFloatFree_iff.mp h
    have hsame := sameItems_iff fun v hv => ih v hv (hitems v hv)
    cases u with
    | arr others => simp only [same, hsame, Json.arr.injEq]
    | _ => simp [same]
  | obj members ih =>
    have hmembers := membersAreFloatFree_iff.mp h
    have hsame := sameMembers_iff fun m hm => ih m hm (hmembers m hm)
    cases u with
    | obj others => simp only [same, hsame, Json.obj.injEq]
    | _ => simp [same]

/-- What a text stands for can be checked by comparing values. -/
theorem parse_eq_of_same {s : List UInt8} {v : Json} (hfree : v.isFloatFree = true)
    (h : (parse s).toOption.any v.same = true) : parse s = .ok v := by
  cases hs : parse s with
  | error fault =>
    rw [hs] at h
    cases h
  | ok u =>
    rw [hs] at h
    rw [(same_iff hfree u).mp h]

end LspProbe.Json
