import LspProbe.Proofs.Binary64.Normal
import LspProbe.Proofs.Json.RoundTrip
import LspProbe.Proofs.Json.Soundness

/-!
# Equality as an equivalence

Values are the same exactly if they have one canonical form, in which no zero has a minus; so
equality is an equivalence, and everything that is looked up in a value respects it. `Equal` says
what equality means without a form: items by place, members by key, doubles by the numbers they
stand for. On values that were read the two agree.
-/

namespace LspProbe

/-- The same double, without a minus if it is zero. -/
def Binary64.canonical (x : Binary64) : Binary64 :=
  if x.magnitude.mantissa = 0 then .zero false else x

theorem Binary64.same_iff_canonical_eq {x y : Binary64} :
    x.same y = true ↔ x.canonical = y.canonical := by
  have hzero : (Binary64.zero false).magnitude.mantissa = 0 := rfl
  rw [same, decide_eq_true_eq, canonical, canonical]
  by_cases hx : x.magnitude.mantissa = 0
  · by_cases hy : y.magnitude.mantissa = 0
    · simp [hx, hy]
    · have hne : x ≠ y := fun h => hy (h ▸ hx)
      have hne' : zero false ≠ y := fun h => hy (h ▸ hzero)
      simp [hx, hy, hne, hne']
  · by_cases hy : y.magnitude.mantissa = 0
    · have hne : x ≠ y := fun h => hx (h ▸ hy)
      have hne' : x ≠ zero false := fun h => hx (h ▸ hzero)
      simp [hx, hy, hne, hne']
    · simp [hx, hy]

def Number.canonical : Number → Number
  | .int i => .int i
  | .float x => .float x.canonical

theorem Number.same_iff_canonical_eq {m n : Number} :
    m.same n = true ↔ m.canonical = n.canonical := by
  cases m with
  | int i => cases n <;> simp [same, canonical]
  | float x =>
    cases n with
    | int j => simp [same, canonical]
    | float y => simp only [same, canonical, Binary64.same_iff_canonical_eq, float.injEq]

namespace Json

mutual

/-- The same value, without a minus before any zero. -/
def canonical : Json → Json
  | .num n => .num n.canonical
  | .arr items => .arr (canonicalItems items)
  | .obj members => .obj (canonicalMembers members)
  | v => v

def canonicalItems : List Json → List Json
  | [] => []
  | v :: rest => canonical v :: canonicalItems rest

def canonicalMembers : List (String × Json) → List (String × Json)
  | [] => []
  | (k, v) :: rest => (k, canonical v) :: canonicalMembers rest

end

theorem canonicalItems_eq_map (items : List Json) :
    canonicalItems items = items.map canonical := by
  induction items with
  | nil => rfl
  | cons v rest ih => rw [canonicalItems, ih, List.map_cons]

private theorem canonicalMembers_eq_map (members : Members) :
    canonicalMembers members = members.map fun m => (m.1, canonical m.2) := by
  induction members with
  | nil => rfl
  | cons m rest ih => rw [canonicalMembers, ih, List.map_cons]

theorem sameItems_iff_canonical_eq {items : List Json}
    (h : ∀ v ∈ items, ∀ u, v.same u = true ↔ v.canonical = u.canonical) (others : List Json) :
    sameItems items others = true ↔ canonicalItems items = canonicalItems others := by
  induction items generalizing others with
  | nil => cases others <;> simp [sameItems, canonicalItems]
  | cons v rest ih =>
    have hrest := ih fun u hu => h u (List.mem_cons_of_mem v hu)
    cases others with
    | nil => simp [sameItems, canonicalItems]
    | cons u others =>
      simp only [sameItems, canonicalItems, Bool.and_eq_true, h v List.mem_cons_self, hrest,
        List.cons.injEq]

theorem sameMembers_iff_canonical_eq {members : Members}
    (h : ∀ m ∈ members, ∀ u, m.2.same u = true ↔ m.2.canonical = u.canonical)
    (others : Members) :
    sameMembers members others = true ↔ canonicalMembers members = canonicalMembers others := by
  induction members generalizing others with
  | nil => cases others <;> simp [sameMembers, canonicalMembers]
  | cons m rest ih =>
    obtain ⟨k, v⟩ := m
    have hv : ∀ u, v.same u = true ↔ v.canonical = u.canonical := h (k, v) List.mem_cons_self
    have hrest := ih fun l hl => h l (List.mem_cons_of_mem (k, v) hl)
    cases others with
    | nil => simp [sameMembers, canonicalMembers]
    | cons l others =>
      obtain ⟨k', u⟩ := l
      simp only [sameMembers, canonicalMembers, Bool.and_eq_true, beq_iff_eq, hv, hrest,
        List.cons.injEq, Prod.mk.injEq]

/-- Values are the same exactly if they have one canonical form. -/
theorem same_iff_canonical_eq (v u : Json) : v.same u = true ↔ v.canonical = u.canonical := by
  induction v using induct generalizing u with
  | null => cases u <;> simp [same, canonical]
  | bool b => cases u <;> simp [same, canonical]
  | num n =>
    cases u with
    | num m => simp only [same, canonical, Number.same_iff_canonical_eq, Json.num.injEq]
    | _ => simp [same, canonical]
  | str s => cases u <;> simp [same, canonical]
  | arr items ih =>
    cases u with
    | arr others =>
      simp only [same, canonical, sameItems_iff_canonical_eq ih others, Json.arr.injEq]
    | _ => simp [same, canonical]
  | obj members ih =>
    cases u with
    | obj others =>
      simp only [same, canonical, sameMembers_iff_canonical_eq ih others, Json.obj.injEq]
    | _ => simp [same, canonical]

theorem sameOption_iff_canonical_eq (a b : Option Json) :
    sameOption a b = true ↔ a.map canonical = b.map canonical := by
  cases a <;> cases b <;> simp [sameOption, same_iff_canonical_eq]

theorem sameItems_iff_map_eq (items others : List Json) :
    sameItems items others = true ↔ items.map canonical = others.map canonical := by
  rw [sameItems_iff_canonical_eq fun v _ u => same_iff_canonical_eq v u, canonicalItems_eq_map,
    canonicalItems_eq_map]

theorem Members.get?_canonicalMembers (key : String) (members : Members) :
    get? key (canonicalMembers members) = (get? key members).map canonical := by
  induction members with
  | nil => rfl
  | cons m rest ih =>
    obtain ⟨k, v⟩ := m
    rw [canonicalMembers, get?, get?, ih]
    split <;> rfl

namespace Members

private theorem Ascending.distinct {members : Members} (h : members.Ascending) : members.Distinct :=
  h.imp String.ne_of_lt

private theorem Ascending.nodup {members : Members} (h : members.Ascending) : members.Nodup := by
  refine List.Pairwise.imp ?_ h
  rintro m l hlt rfl
  exact String.lt_irrefl _ hlt

private theorem Ascending.eq_of_perm {members other : Members} (h : members.Ascending)
    (hother : other.Ascending) (hperm : members.Perm other) : members = other :=
  hperm.eq_of_pairwise (fun _ _ _ _ hlt hgt => absurd hgt (String.lt_asymm hlt)) h hother

/-- Members in order are given by the values of their keys. -/
theorem Ascending.ext {members other : Members} (h : members.Ascending)
    (hother : other.Ascending) (hget : ∀ key, get? key members = get? key other) :
    members = other := by
  refine h.eq_of_perm hother ((List.perm_ext_iff_of_nodup h.nodup hother.nodup).mpr ?_)
  rintro ⟨key, v⟩
  rw [← get?_eq_some_iff h.distinct, ← get?_eq_some_iff hother.distinct, hget key]

theorem Ascending.canonical {members : Members} (h : members.Ascending) :
    Ascending (canonicalMembers members) := by
  rw [canonicalMembers_eq_map]
  exact List.pairwise_map.mpr h

private theorem Ascending.foldl_insert {soFar : Members} (h : soFar.Ascending) (members : Members) :
    Ascending (members.foldl (fun soFar m => Members.insert m.1 m.2 soFar) soFar) := by
  induction members generalizing soFar with
  | nil => exact h
  | cons m rest ih => exact ih (h.insert m.1 m.2)

private theorem ofList_ascending (members : Members) : (ofList members).Ascending :=
  Ascending.foldl_insert .nil members

private theorem mem_foldl_insert {members soFar : Members} {m : String × Json}
    (h : m ∈ members.foldl (fun soFar m => insert m.1 m.2 soFar) soFar) :
    m ∈ soFar ∨ m ∈ members := by
  induction members generalizing soFar with
  | nil => exact .inl h
  | cons l rest ih =>
    rcases ih h with h | h
    · rcases mem_insert h with rfl | h
      · exact .inr List.mem_cons_self
      · exact .inl h
    · exact .inr (List.mem_cons_of_mem l h)

private theorem mem_ofList {members : Members} {m : String × Json} (h : m ∈ ofList members) :
    m ∈ members := (mem_foldl_insert h).resolve_left (by simp)

/-- With distinct keys, the order in which members are written makes no difference. -/
theorem ofList_eq_of_perm {members other : Members} (h : members.Distinct)
    (hperm : members.Perm other) : ofList members = ofList other := by
  have hsame := (perm_ofList h).trans (hperm.trans (perm_ofList (h.perm hperm)).symm)
  exact (ofList_ascending members).eq_of_perm (ofList_ascending other) hsame

end Members

/-- Equality of values, item by item and key by key. Integers are equal to nothing but themselves,
and doubles if they stand for the same number. -/
inductive Equal : Json → Json → Prop
  | null : Equal .null .null
  | bool (b : Bool) : Equal (.bool b) (.bool b)
  | int (i : Int) : Equal (.num (.int i)) (.num (.int i))
  | float {x y : Binary64} (h : x.value = y.value) : Equal (.num (.float x)) (.num (.float y))
  | str (s : String) : Equal (.str s) (.str s)
  | arr {items others : List Json} (hlength : items.length = others.length)
      (h : ∀ (i : Nat) (v u : Json), items[i]? = some v → others[i]? = some u → Equal v u) :
      Equal (.arr items) (.arr others)
  | obj {members others : Members}
      (hkeys : ∀ key, (Members.get? key members).isSome = (Members.get? key others).isSome)
      (h : ∀ key v u, Members.get? key members = some v → Members.get? key others = some u →
        Equal v u) : Equal (.obj members) (.obj others)

private theorem equal_arr_iff {items others : List Json} :
    (Json.arr items).Equal (.arr others) ↔ items.length = others.length ∧
      ∀ (i : Nat) (v u : Json), items[i]? = some v → others[i]? = some u → v.Equal u := by
  constructor
  · rintro (_ | _ | _ | _ | _ | ⟨hlength, h⟩)
    exact ⟨hlength, h⟩
  · rintro ⟨hlength, h⟩
    exact .arr hlength h

private theorem equal_obj_iff {members others : Members} :
    (Json.obj members).Equal (.obj others) ↔
      (∀ key, (Members.get? key members).isSome = (Members.get? key others).isSome) ∧
      ∀ key v u, Members.get? key members = some v → Members.get? key others = some u →
        v.Equal u := by
  constructor
  · rintro (_ | _ | _ | _ | _ | _ | ⟨hkeys, h⟩)
    exact ⟨hkeys, h⟩
  · rintro ⟨hkeys, h⟩
    exact .obj hkeys h

/-- Values whose doubles are normal and whose members are in order. -/
inductive Regular : Json → Prop
  | null : Regular .null
  | bool (b : Bool) : Regular (.bool b)
  | num {n : Number} (h : n.Normal) : Regular (.num n)
  | str (s : String) : Regular (.str s)
  | arr {items : List Json} (h : ∀ v ∈ items, Regular v) : Regular (.arr items)
  | obj {members : Members} (horder : members.Ascending) (h : ∀ m ∈ members, Regular m.2) :
      Regular (.obj members)

theorem Separated.forall_mem {α : Type} {A : α → List UInt8 → Prop} {Q : α → Prop}
    (hQ : ∀ a s, A a s → Q a) {as : List α} {s : List UInt8} (h : Separated A as s) :
    ∀ a ∈ as, Q a := by
  induction h with
  | last h => simpa using hQ _ _ h
  | more h _ ih => exact List.forall_mem_cons.mpr ⟨hQ _ _ h, ih⟩

theorem IsContainer.regular {P : Json → List UInt8 → Prop} (hP : ∀ v s, P v s → Regular v)
    {v : Json} {s : List UInt8} (h : IsContainer P v s) : Regular v := by
  cases h with
  | emptyList _ => exact .arr (by simp)
  | list h =>
    refine .arr (h.forall_mem fun v s hv => ?_)
    cases hv with
    | mk _ hv _ => exact hP _ _ hv
  | emptyObject _ => exact .obj .nil (by simp)
  | object h =>
    refine .obj (Members.ofList_ascending _) fun m hm => ?_
    refine h.forall_mem (Q := fun m => Regular m.2) (fun m s hm => ?_) m (Members.mem_ofList hm)
    cases hm with
    | mk _ hvalue =>
      cases hvalue with
      | mk _ hv _ => exact hP _ _ hv

theorem IsScalar.regular {v : Json} {s : List UInt8} (h : IsScalar v s) : Regular v := by
  cases h with
  | null => exact .null
  | true => exact .bool _
  | false => exact .bool _
  | positive _ _ hvalue => exact .num (Number.Literal.value_normal hvalue)
  | negative _ _ hvalue => exact .num (Number.Literal.value_normal hvalue)
  | str _ => exact .str _

theorem IsText.regular {n : Nat} {v : Json} {s : List UInt8} (h : IsText n v s) :
    Regular v := by
  induction n generalizing v s with
  | zero => exact IsScalar.regular h
  | succ n ih =>
    rcases h with h | h
    · exact h.regular
    · exact h.regular fun v s hv => ih hv

theorem regular_of_parse {v : Json} {s : List UInt8} (h : parse s = .ok v) : Regular v := by
  cases parse_eq_ok_iff.mp h with
  | mk _ ht _ => exact ht.regular

private theorem canonical_num_eq_iff {m n : Number} (hm : m.Normal) (hn : n.Normal) :
    (Json.num m).canonical = (Json.num n).canonical ↔ (Json.num m).Equal (.num n) := by
  rw [← same_iff_canonical_eq, same]
  cases m with
  | int i =>
    cases n with
    | int j =>
      rw [Number.same, beq_iff_eq]
      constructor
      · rintro rfl
        exact .int i
      · rintro (_ | _ | _)
        rfl
    | float y => exact ⟨nofun, nofun⟩
  | float x =>
    cases n with
    | int j => exact ⟨nofun, nofun⟩
    | float y =>
      rw [Number.same, Binary64.same_iff_value_eq hm hn]
      constructor
      · exact .float
      · rintro (_ | _ | _ | h)
        exact h

private theorem canonical_arr_eq_iff {items others : List Json} :
    (Json.arr items).canonical = (Json.arr others).canonical ↔
      items.length = others.length ∧
      ∀ (i : Nat) (v u : Json), items[i]? = some v → others[i]? = some u →
        v.canonical = u.canonical := by
  rw [canonical, canonical, Json.arr.injEq, canonicalItems_eq_map, canonicalItems_eq_map]
  constructor
  · intro h
    refine ⟨by simpa using congrArg List.length h, fun i v u hv hu => ?_⟩
    have hi := congrArg (fun l : List Json => l[i]?) h
    simpa [hv, hu] using hi
  · rintro ⟨hlength, h⟩
    refine List.ext_getElem (by simpa using hlength) fun i hi hi' => ?_
    rw [List.length_map] at hi hi'
    rw [List.getElem_map, List.getElem_map]
    exact h i _ _ (List.getElem?_eq_getElem hi) (List.getElem?_eq_getElem hi')

private theorem canonical_obj_eq_iff {members others : Members} (h : members.Ascending)
    (hothers : others.Ascending) :
    (Json.obj members).canonical = (Json.obj others).canonical ↔
      (∀ key, (Members.get? key members).isSome = (Members.get? key others).isSome) ∧
      ∀ key v u, Members.get? key members = some v → Members.get? key others = some u →
        v.canonical = u.canonical := by
  have hoption (a b : Option Json) : a.map canonical = b.map canonical ↔
      a.isSome = b.isSome ∧ ∀ v u, a = some v → b = some u → v.canonical = u.canonical := by
    cases a <;> cases b <;> simp
  rw [canonical, canonical, Json.obj.injEq, ← forall_and]
  simp only [← hoption, ← Members.get?_canonicalMembers]
  refine ⟨fun heq key => by rw [heq], fun hget => ?_⟩
  exact h.canonical.ext hothers.canonical hget

/-- Values that were read have one canonical form exactly if they are equal in every part. -/
theorem canonical_eq_iff_equal {v u : Json} (hv : Regular v) (hu : Regular u) :
    v.canonical = u.canonical ↔ v.Equal u := by
  induction hv generalizing u with
  | null =>
    cases u with
    | null => exact ⟨fun _ => .null, fun _ => rfl⟩
    | _ => exact ⟨nofun, nofun⟩
  | bool b =>
    cases u with
    | bool c =>
      refine ⟨fun h => ?_, fun h => ?_⟩
      · cases h
        exact .bool b
      · cases h
        rfl
    | _ => exact ⟨nofun, nofun⟩
  | num hm =>
    cases hu with
    | num hn => exact canonical_num_eq_iff hm hn
    | _ => exact ⟨nofun, nofun⟩
  | str s =>
    cases u with
    | str t =>
      refine ⟨fun h => ?_, fun h => ?_⟩
      · cases h
        exact .str s
      · cases h
        rfl
    | _ => exact ⟨nofun, nofun⟩
  | arr _ ih =>
    cases hu with
    | arr hothers =>
      rw [canonical_arr_eq_iff, equal_arr_iff]
      refine and_congr_right fun _ => forall_congr' fun i => forall₂_congr fun v u =>
        forall₂_congr fun hv hu => ?_
      exact ih v (List.mem_of_getElem? hv) (hothers u (List.mem_of_getElem? hu))
    | _ => exact ⟨nofun, nofun⟩
  | obj horder _ ih =>
    cases hu with
    | obj horder' hothers =>
      rw [canonical_obj_eq_iff horder horder', equal_obj_iff]
      refine and_congr_right fun _ => forall_congr' fun key => forall₂_congr fun v u =>
        forall₂_congr fun hv hu => ?_
      have hv := (Members.get?_eq_some_iff horder.distinct).mp hv
      have hu := (Members.get?_eq_some_iff horder'.distinct).mp hu
      exact ih (key, v) hv (hothers (key, u) hu)
    | _ => exact ⟨nofun, nofun⟩

/-- Values that were read are the same exactly if they are equal in every part. -/
theorem same_iff_equal {v u : Json} (hv : Regular v) (hu : Regular u) :
    v.same u = true ↔ v.Equal u := by
  rw [same_iff_canonical_eq, canonical_eq_iff_equal hv hu]

example : (Json.num (.float (.zero false))).same (.num (.float (.zero true))) = true ∧
    (Json.num (.int 0)).same (.num (.float (.zero false))) = false := by decide

end Json

end LspProbe
