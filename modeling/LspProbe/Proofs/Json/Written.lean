import LspProbe.Proofs.Json.Soundness

/-!
# Members as they are written

The value of an object holds each key once. A text may repeat a key, so here the members of the
object at the top of a text are kept as they are written, and the value follows from them: the
last member of a key counts.
-/

namespace LspProbe.Json

namespace Members

/-- The values of all members with a key, in order. -/
def getAll (key : String) : Members → List Json
  | [] => []
  | (k, v) :: rest => if k = key then v :: getAll key rest else getAll key rest

private theorem length_getAll (key : String) (members : Members) :
    (getAll key members).length = (members.map Prod.fst).count key := by
  induction members with
  | nil => rfl
  | cons m rest ih =>
    obtain ⟨k, v⟩ := m
    rw [getAll, List.map_cons, List.count_cons]
    by_cases hk : k = key
    · simp [hk, ih]
    · simp [hk, ih]

private theorem get?_foldl_insert (key : String) (members soFar : Members) :
    get? key (members.foldl (fun soFar m => insert m.1 m.2 soFar) soFar) =
      (getAll key members).getLast?.or (get? key soFar) := by
  induction members generalizing soFar with
  | nil => rfl
  | cons m rest ih =>
    obtain ⟨k, v⟩ := m
    rw [List.foldl_cons, ih, get?_insert, getAll]
    by_cases hk : k = key
    · rw [if_pos hk, if_pos hk, List.getLast?_cons]
      cases (getAll key rest).getLast? <;> rfl
    · rw [if_neg hk, if_neg hk]

/-- The last member with a key counts. -/
theorem get?_ofList_eq_getLast? (key : String) (members : Members) :
    get? key (ofList members) = (getAll key members).getLast? := by
  rw [ofList, get?_foldl_insert, get?, Option.or_none]

/-- A key that is not repeated has the value that its member has. -/
theorem getAll_eq_singleton_iff {key : String} {members : Members}
    (h : (members.map Prod.fst).count key ≤ 1) {v : Json} :
    getAll key members = [v] ↔ get? key (ofList members) = some v := by
  rw [← length_getAll] at h
  rw [get?_ofList_eq_getLast?]
  cases hall : getAll key members with
  | nil => simp
  | cons u rest =>
    rw [hall, List.length_cons] at h
    have hrest : rest = [] := List.eq_nil_of_length_eq_zero (by omega)
    simp [hrest]

end Members

/-- A member that is kept as it is written. -/
def writtenMember (soFar : Members) : Reader Members := fun s => do
  let (key, s) ← string s
  let s ← colon s
  let (v, s) ← value (maxNesting - 1) s
  .ok (soFar ++ [(key, v)], s)

/-- The members of the object that a text is, in the order in which they are written and with
repeated keys. Any other text has none. -/
def writtenMembers (s : List UInt8) : Members :=
  match skipBlanks s with
  | [] => []
  | b :: rest =>
    if b = Ascii.openBrace then
      match object .keeping writtenMember [] rest with
      | .ok (ms, _) => ms
      | .error _ => []
    else []

private theorem writtenMember_follows :
    Follows (IsText (maxNesting - 1)) writtenMember fun soFar m => some (soFar ++ [m]) := by
  intro soFar m s rest h hrest
  obtain ⟨content, t, u, hskip, hcontent, hcolon, hvalue⟩ := h.parts rest
  obtain ⟨after, hafter, hread⟩ := hvalue.view (fun s hs => (value_isText hs).views) hrest
  have hvalue := toOption_eq_some_iff.mp hread
  refine ⟨content ++ Ascii.quote :: t, after, hskip, hafter, ?_⟩
  rw [writtenMember, string_content hcontent, ok_bind]
  dsimp only
  rw [hcolon, ok_bind, hvalue, ok_bind]
  rfl

private theorem foldlM_append_singleton (ms soFar : Members) :
    ms.foldlM (fun soFar m => some (soFar ++ [m])) soFar = some (soFar ++ ms) := by
  induction ms generalizing soFar with
  | nil => rw [List.foldlM_nil, List.append_nil]; rfl
  | cons m rest ih =>
    rw [List.foldlM_cons]
    change rest.foldlM _ (soFar ++ [m]) = _
    rw [ih, List.append_assoc, List.singleton_append]

/-- The members of an object are those of its text. -/
theorem writtenMembers_of_separated {ms : Members} {s : List UInt8}
    (h : Separated (IsMember (IsText (maxNesting - 1))) ms s) {before : List UInt8}
    (hbefore : Blanks before) (rest : List UInt8) :
    writtenMembers (before ++ (Ascii.openBrace :: (s ++ [Ascii.closeBrace]) ++ rest)) = ms := by
  have hobject := object_container .keeping writtenMember_follows h rest []
  rw [foldlM_append_singleton, List.nil_append] at hobject
  have hread := toOption_eq_some_iff.mp hobject
  rw [writtenMembers, skipBlanks_append hbefore, List.cons_append, skipBlanks_cons (by decide)]
  dsimp only
  rw [if_pos rfl, List.append_assoc, List.singleton_append, hread]

end LspProbe.Json
