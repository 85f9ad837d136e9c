import LspProbe.Proofs.Json.Grammar

/-!
# The shape of values

How deep a value nests, whether a double occurs in it, and the order of its members. `ordered` is
the value that a text of a value reads as: members in key order, the last of equal keys kept.
-/

namespace LspProbe.Json

/-- What holds of a value if it holds of its items and members holds of all values. -/
@[elab_as_elim]
theorem induct {motive : Json → Prop} (null : motive .null) (bool : ∀ b, motive (.bool b))
    (num : ∀ n, motive (.num n)) (str : ∀ s, motive (.str s))
    (arr : ∀ items, (∀ v ∈ items, motive v) → motive (.arr items))
    (obj : ∀ members : Members, (∀ m ∈ members, motive m.2) → motive (.obj members)) (v : Json) :
    motive v :=
  match v with
  | .null => null
  | .bool b => bool b
  | .num n => num n
  | .str s => str s
  | .arr items => arr items fun v _ => induct null bool num str arr obj v
  | .obj members => obj members fun m _ => induct null bool num str arr obj m.2
termination_by v
decreasing_by
  · have hlt := List.sizeOf_lt_of_mem ‹v ∈ items›
    simp only [Json.arr.sizeOf_spec]
    omega
  · have hlt := List.sizeOf_lt_of_mem ‹m ∈ members›
    have hm : sizeOf m = 1 + sizeOf m.1 + sizeOf m.2 := rfl
    simp only [Json.obj.sizeOf_spec]
    omega

mutual

/-- How many lists and objects stand inside each other. -/
def depth : Json → Nat
  | .arr items => depthOfItems items + 1
  | .obj members => depthOfMembers members + 1
  | _ => 0

def depthOfItems : List Json → Nat
  | [] => 0
  | v :: rest => max (depth v) (depthOfItems rest)

def depthOfMembers : List (String × Json) → Nat
  | [] => 0
  | (_, v) :: rest => max (depth v) (depthOfMembers rest)

end

theorem depthOfItems_le_iff {items : List Json} {n : Nat} :
    depthOfItems items ≤ n ↔ ∀ v ∈ items, v.depth ≤ n := by
  induction items with
  | nil => simp [depthOfItems]
  | cons v rest ih => rw [depthOfItems, Nat.max_le, ih, List.forall_mem_cons]

theorem depthOfMembers_le_iff {members : Members} {n : Nat} :
    depthOfMembers members ≤ n ↔ ∀ m ∈ members, m.2.depth ≤ n := by
  induction members with
  | nil => simp [depthOfMembers]
  | cons m rest ih => rw [depthOfMembers, Nat.max_le, ih, List.forall_mem_cons]

theorem depth_arr_le_iff {items : List Json} {n : Nat} :
    (Json.arr items).depth ≤ n + 1 ↔ ∀ v ∈ items, v.depth ≤ n := by
  rw [depth, Nat.add_le_add_iff_right, depthOfItems_le_iff]

theorem depth_obj_le_iff {members : Members} {n : Nat} :
    (Json.obj members).depth ≤ n + 1 ↔ ∀ m ∈ members, m.2.depth ≤ n := by
  rw [depth, Nat.add_le_add_iff_right, depthOfMembers_le_iff]

mutual

/-- Whether no double occurs in a value. -/
def isFloatFree : Json → Bool
  | .num (.float _) => false
  | .arr items => areFloatFree items
  | .obj members => membersAreFloatFree members
  | _ => true

def areFloatFree : List Json → Bool
  | [] => true
  | v :: rest => v.isFloatFree && areFloatFree rest

def membersAreFloatFree : List (String × Json) → Bool
  | [] => true
  | (_, v) :: rest => v.isFloatFree && membersAreFloatFree rest

end

theorem areFloatFree_iff {items : List Json} :
    areFloatFree items = true ↔ ∀ v ∈ items, v.isFloatFree = true := by
  induction items with
  | nil => simp [areFloatFree]
  | cons v rest ih => simp [areFloatFree, ih]

theorem membersAreFloatFree_iff {members : Members} :
    membersAreFloatFree members = true ↔ ∀ m ∈ members, m.2.isFloatFree = true := by
  induction members with
  | nil => simp [membersAreFloatFree]
  | cons m rest ih => simp [membersAreFloatFree, ih]

/-- Integers that 64 bits hold, with or without a sign. -/
def IsWord (i : Int) : Prop := -0x8000000000000000 ≤ i ∧ i < 0x10000000000000000

/-- Every number in a value is an integer of 64 bits. -/
inductive Exact : Json → Prop
  | null : Exact .null
  | bool (b : Bool) : Exact (.bool b)
  | int {i : Int} (h : IsWord i) : Exact (.num (.int i))
  | str (s : String) : Exact (.str s)
  | arr {items : List Json} (h : ∀ v ∈ items, Exact v) : Exact (.arr items)
  | obj {members : Members} (h : ∀ m ∈ members, Exact m.2) : Exact (.obj members)

mutual

/-- The same value with members in key order, the last of equal keys kept. -/
def ordered : Json → Json
  | .arr items => .arr (orderedItems items)
  | .obj members => .obj (Members.ofList (orderedMembers members))
  | v => v

def orderedItems : List Json → List Json
  | [] => []
  | v :: rest => ordered v :: orderedItems rest

def orderedMembers : List (String × Json) → List (String × Json)
  | [] => []
  | (k, v) :: rest => (k, ordered v) :: orderedMembers rest

end

theorem orderedItems_eq_map (items : List Json) : orderedItems items = items.map ordered := by
  induction items with
  | nil => rfl
  | cons v rest ih => rw [orderedItems, ih, List.map_cons]

theorem orderedMembers_eq_map (members : Members) :
    orderedMembers members = members.map fun m => (m.1, ordered m.2) := by
  induction members with
  | nil => rfl
  | cons m rest ih => rw [orderedMembers, ih, List.map_cons]

/-- Each key once, in ascending order. -/
def Members.Ascending (members : Members) : Prop := members.Pairwise fun m l => m.1 < l.1

namespace Members

theorem mem_insert {key : String} {value : Json} {members : Members} {m : String × Json}
    (h : m ∈ insert key value members) : m = (key, value) ∨ m ∈ members := by
  induction members with
  | nil => exact .inl (List.mem_singleton.mp h)
  | cons l rest ih =>
    obtain ⟨k, v⟩ := l
    rw [insert] at h
    split at h
    · exact List.mem_cons.mp h
    · split at h
      · rcases List.mem_cons.mp h with h | h
        · exact .inl h
        · exact .inr (List.mem_cons_of_mem _ h)
      · rcases List.mem_cons.mp h with h | h
        · exact .inr (h ▸ List.mem_cons_self)
        · exact (ih h).imp_right (List.mem_cons_of_mem _)

theorem Ascending.insert {members : Members} (h : members.Ascending) (key : String)
    (value : Json) : (Members.insert key value members).Ascending := by
  induction members with
  | nil => exact List.pairwise_singleton _ _
  | cons l rest ih =>
    obtain ⟨k, v⟩ := l
    obtain ⟨hfirst, hrest⟩ := List.pairwise_cons.mp h
    rw [Members.insert]
    split
    · next hlt =>
      refine List.pairwise_cons.mpr ⟨fun m hm => ?_, h⟩
      rcases List.mem_cons.mp hm with rfl | hm
      · exact hlt
      · exact String.lt_trans hlt (hfirst m hm)
    · split
      · next heq =>
        subst heq
        exact List.pairwise_cons.mpr ⟨hfirst, hrest⟩
      · next hlt hne =>
        have hkey : k < key := by
          apply String.not_le.mp
          intro hle
          exact hne (String.le_antisymm hle (String.not_lt.mp hlt))
        refine List.pairwise_cons.mpr ⟨fun m hm => ?_, ih hrest⟩
        rcases mem_insert hm with rfl | hm
        · exact hkey
        · exact hfirst m hm

/-- A key above all others goes to the end. -/
private theorem insert_eq_append {members : Members} {key : String} (value : Json)
    (h : ∀ m ∈ members, m.1 < key) : insert key value members = members ++ [(key, value)] := by
  induction members with
  | nil => rfl
  | cons l rest ih =>
    obtain ⟨k, v⟩ := l
    have hk : k < key := h (k, v) List.mem_cons_self
    rw [insert, if_neg (String.lt_asymm hk), if_neg (String.ne_of_lt hk).symm,
      ih fun m hm => h m (List.mem_cons_of_mem _ hm), List.cons_append]

private theorem foldl_insert_eq_append {members soFar : Members}
    (h : (soFar ++ members).Ascending) :
    members.foldl (fun soFar m => insert m.1 m.2 soFar) soFar = soFar ++ members := by
  induction members generalizing soFar with
  | nil => simp
  | cons m rest ih =>
    have hlast : ∀ l ∈ soFar, l.1 < m.1 := fun l hl =>
      (List.pairwise_append.mp h).2.2 l hl m List.mem_cons_self
    have heq : soFar ++ m :: rest = (soFar ++ [m]) ++ rest := by simp
    rw [List.foldl_cons, insert_eq_append m.2 hlast, heq]
    exact ih (heq ▸ h)

/-- Members that are in order stay as they are. -/
theorem ofList_eq_self {members : Members} (h : members.Ascending) : ofList members = members := by
  rw [ofList, foldl_insert_eq_append (by simpa using h), List.nil_append]

end Members

/-- Values that a reader gives: integers have 64 bits and members are in order. -/
inductive Kept : Json → Prop
  | null : Kept .null
  | bool (b : Bool) : Kept (.bool b)
  | int {i : Int} (h : IsWord i) : Kept (.num (.int i))
  | float (x : Binary64) : Kept (.num (.float x))
  | str (s : String) : Kept (.str s)
  | arr {items : List Json} (h : ∀ v ∈ items, Kept v) : Kept (.arr items)
  | obj {members : Members} (horder : members.Ascending) (h : ∀ m ∈ members, Kept m.2) :
      Kept (.obj members)

theorem Kept.ordered_eq {v : Json} (h : Kept v) : v.ordered = v := by
  induction h with
  | null => rfl
  | bool b => rfl
  | int h => rfl
  | float x => rfl
  | str s => rfl
  | arr h ih =>
    rename_i items
    have hitems : items.map ordered = items :=
      (List.map_congr_left ih).trans (List.map_id items)
    rw [ordered, orderedItems_eq_map, hitems]
  | obj horder h ih =>
    rename_i members
    have hmembers : members.map (fun m => (m.1, ordered m.2)) = members := by
      refine (List.map_congr_left fun m hm => ?_).trans (List.map_id members)
      rw [ih m hm]
      rfl
    rw [ordered, orderedMembers_eq_map, hmembers, Members.ofList_eq_self horder]

theorem Kept.exact {v : Json} (h : Kept v) (hfree : v.isFloatFree = true) : Exact v := by
  induction h with
  | null => exact .null
  | bool b => exact .bool b
  | int h => exact .int h
  | float x => cases hfree
  | str s => exact .str s
  | arr h ih => exact .arr fun v hv => ih v hv (areFloatFree_iff.mp hfree v hv)
  | obj horder h ih => exact .obj fun m hm => ih m hm (membersAreFloatFree_iff.mp hfree m hm)

end LspProbe.Json
