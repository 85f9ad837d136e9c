import LspProbe.Proofs.Json.RoundTrip
import LspProbe.Proofs.Records

/-!
# Reading printed records back

A printed record is an object with the members of an outcome that are there, so reading it gives
each field back, and data that is null stays apart from data that is missing. The record adds one
level of nesting to its data and a survey adds another, which is all that can make a reader refuse
what was printed.
-/

namespace LspProbe

open Json

namespace Outcome

/-- What a record has under a key. -/
def field? (o : Outcome Json) (key : String) : Option Json :=
  if key = "success" then some (.bool o.success)
  else if key = "data" then o.data
  else if key = "statusCode" then o.statusCode.map Json.nat
  else if key = "error" then o.error.map Json.str
  else none

/-- A value is an outcome read: an object that has each field of the outcome once, under its own
key, and nothing else. -/
def IsReadAs (o : Outcome Json) (v : Json) : Prop :=
  ∃ members : Members, v = .obj members ∧ members.Distinct ∧
    ∀ key, Members.get? key members = o.field? key

/-- Outcomes that a query may come to, and more: the status code has 16 bits, and the data holds
no double and could have been read from the body of a reply. -/
structure Plain (o : Outcome Json) : Prop where
  statusCode : ∀ code ∈ o.statusCode, code < 0x10000
  floatFree : ∀ d ∈ o.data, d.isFloatFree = true
  parsed : ∀ d ∈ o.data, ∃ body, Json.parse body = .ok d

variable {o : Outcome Json}

private theorem mem_optional_iff {key : String} {value : Option Json} {m : String × Json} :
    m ∈ optional key value ↔ m.1 = key ∧ value = some m.2 := by
  obtain ⟨k, v⟩ := m
  cases value with
  | none => simp [optional]
  | some u => simp [optional, eq_comm]

theorem mem_members_iff {m : String × Json} :
    m ∈ o.members ↔ (m.1 = "success" ∧ m.2 = .bool o.success) ∨
      (m.1 = "data" ∧ o.data = some m.2) ∨
      (m.1 = "statusCode" ∧ o.statusCode.map Json.nat = some m.2) ∨
      (m.1 = "error" ∧ o.error.map Json.str = some m.2) := by
  obtain ⟨k, v⟩ := m
  simp only [members, List.mem_append, mem_optional_iff, List.mem_singleton, Prod.mk.injEq,
    or_assoc]

/-- Each key is written once at most. -/
private theorem keys_sublist (o : Outcome Json) :
    (o.members.map Prod.fst).Sublist ["success", "data", "statusCode", "error"] := by
  have hkey (key : String) (value : Option Json) :
      ((optional key value).map Prod.fst).Sublist [key] := by
    cases value with
    | none => exact List.nil_sublist _
    | some v => exact .refl _
  simp only [members, List.map_append]
  exact (((List.Sublist.refl _).append (hkey _ _)).append (hkey _ _)).append (hkey _ _)

theorem members_distinct (o : Outcome Json) : Members.Distinct o.members :=
  List.pairwise_map.mp (List.Pairwise.sublist o.keys_sublist (by decide))

private theorem field?_eq_some_iff {key : String} {v : Json} :
    o.field? key = some v ↔ (key, v) ∈ o.members := by
  rw [mem_members_iff, field?]
  split
  · next h => subst h; simp [eq_comm]
  · split
    · next h => subst h; simp
    · split
      · next h => subst h; simp
      · split
        · next h => subst h; simp
        · simp_all

theorem get?_members (o : Outcome Json) (key : String) :
    Members.get? key o.members = o.field? key := by
  apply Option.ext
  intro v
  rw [Members.get?_eq_some_iff o.members_distinct, field?_eq_some_iff]

theorem isReadAs_toJson (o : Outcome Json) : o.IsReadAs o.toJson :=
  ⟨o.members, rfl, o.members_distinct, o.get?_members⟩

theorem Plain.kept (h : o.Plain) {d : Json} (hd : d ∈ o.data) : d.Kept := by
  obtain ⟨body, hbody⟩ := h.parsed d hd
  exact (parse_kept hbody).1

theorem Plain.exact (h : o.Plain) : o.toJson.Exact := by
  refine .obj fun m hm => ?_
  rcases mem_members_iff.mp hm with ⟨_, hv⟩ | ⟨_, hv⟩ | ⟨_, hv⟩ | ⟨_, hv⟩
  · rw [hv]
    exact .bool _
  · exact (h.kept hv).exact (h.floatFree _ hv)
  · obtain ⟨code, hcode, hv⟩ := Option.map_eq_some_iff.mp hv
    have hlt := h.statusCode code hcode
    rw [← hv]
    exact .int ⟨by omega, by omega⟩
  · obtain ⟨error, _, hv⟩ := Option.map_eq_some_iff.mp hv
    rw [← hv]
    exact .str _

/-- The members of a record are moved by reading, and not changed. -/
private theorem Plain.ordered_toJson (h : o.Plain) :
    o.toJson.ordered = .obj (Members.ofList o.members) := by
  have hmembers : o.members.map (fun m => (m.1, m.2.ordered)) = o.members := by
    refine (List.map_congr_left fun m hm => ?_).trans (List.map_id _)
    have hv : m.2.ordered = m.2 := by
      rcases mem_members_iff.mp hm with ⟨_, hv⟩ | ⟨_, hv⟩ | ⟨_, hv⟩ | ⟨_, hv⟩
      · rw [hv]
        rfl
      · exact (h.kept hv).ordered_eq
      · obtain ⟨code, _, hv⟩ := Option.map_eq_some_iff.mp hv
        rw [← hv]
        rfl
      · obtain ⟨error, _, hv⟩ := Option.map_eq_some_iff.mp hv
        rw [← hv]
        rfl
    rw [hv]
    rfl
  rw [toJson, ordered, orderedMembers_eq_map, hmembers]

theorem Plain.isReadAs_ordered (h : o.Plain) : o.IsReadAs o.toJson.ordered := by
  refine ⟨Members.ofList o.members, h.ordered_toJson, ?_, fun key => ?_⟩
  · exact o.members_distinct.perm (Members.perm_ofList o.members_distinct).symm
  · rw [Members.get?_ofList o.members_distinct, get?_members]

/-- A record nests one level deeper than its data. -/
theorem IsReadAs.depth_le_iff {v : Json} (h : o.IsReadAs v) {n : Nat} :
    v.depth ≤ n + 1 ↔ ∀ d ∈ o.data, d.depth ≤ n := by
  obtain ⟨members, rfl, hdistinct, hget⟩ := h
  have hmem (m : String × Json) : m ∈ members ↔ m ∈ o.members := by
    rw [← Members.get?_eq_some_iff hdistinct, hget, field?_eq_some_iff]
  rw [depth_obj_le_iff]
  constructor
  · intro hall d hd
    exact hall ("data", d) ((hmem _).mpr (mem_members_iff.mpr (.inr (.inl ⟨rfl, hd⟩))))
  · intro hdata m hm
    rcases mem_members_iff.mp ((hmem m).mp hm) with ⟨_, hv⟩ | ⟨_, hv⟩ | ⟨_, hv⟩ | ⟨_, hv⟩
    · rw [hv]
      exact Nat.zero_le n
    · exact hdata _ hv
    · obtain ⟨code, _, hv⟩ := Option.map_eq_some_iff.mp hv
      rw [← hv]
      exact Nat.zero_le n
    · obtain ⟨error, _, hv⟩ := Option.map_eq_some_iff.mp hv
      rw [← hv]
      exact Nat.zero_le n

/-- A value is read as one outcome at most. -/
theorem IsReadAs.unique {p : Outcome Json} {v : Json} (ho : o.IsReadAs v) (hp : p.IsReadAs v) :
    o = p := by
  obtain ⟨members, rfl, _, hget⟩ := ho
  obtain ⟨other, hother, _, hget'⟩ := hp
  cases hother
  have hfield (key : String) : o.field? key = p.field? key := (hget key).symm.trans (hget' key)
  obtain ⟨success, data, statusCode, error⟩ := o
  obtain ⟨success', data', statusCode', error'⟩ := p
  have hsuccess : success = success' := by simpa [field?] using hfield "success"
  have hdata : data = data' := by simpa [field?] using hfield "data"
  have hcode : statusCode.map Json.nat = statusCode'.map Json.nat := by
    simpa [field?] using hfield "statusCode"
  have herror : error.map Json.str = error'.map Json.str := by
    simpa [field?] using hfield "error"
  have hnat : Function.Injective Json.nat := by
    intro m n h
    cases h
    rfl
  have hstr : Function.Injective Json.str := by
    intro s t h
    cases h
    rfl
  rw [hsuccess, hdata, Option.map_injective hnat hcode, Option.map_injective hstr herror]

end Outcome

namespace Execution

/-- How deep data may nest inside what is printed. -/
def room : Execution → Nat
  | .single _ _ => 126
  | .all _ => 125

/-- A value is an execution read: the one record, or each record under the name of its query. -/
def IsReadAs : Execution → Json → Prop
  | .single _ run, v => run.record.IsReadAs v
  | .all s, v => ∃ d r g, v = .obj [("definition", d), ("references", r), ("signature", g)] ∧
    (s.definition.map Locations.body).IsReadAs d ∧
    (s.references.map Locations.body).IsReadAs r ∧
    (s.signature.map SignatureReply.body).IsReadAs g

theorem isReadAs_toJson (e : Execution) : e.IsReadAs e.toJson := by
  cases e with
  | single kind run =>
    rw [toJson, SingleRun.toJson_eq]
    exact run.record.isReadAs_toJson
  | all s =>
    exact ⟨_, _, _, rfl, Outcome.isReadAs_toJson _, Outcome.isReadAs_toJson _,
      Outcome.isReadAs_toJson _⟩

private theorem exact_toJson {e : Execution} (h : ∀ o ∈ e.records, o.Plain) : e.toJson.Exact := by
  cases e with
  | single kind run =>
    rw [toJson, SingleRun.toJson_eq]
    exact (h _ List.mem_cons_self).exact
  | all s =>
    simp only [records, List.forall_mem_cons] at h
    obtain ⟨hd, hr, hg, _⟩ := h
    refine .obj ?_
    simp only [List.forall_mem_cons]
    exact ⟨hd.exact, hr.exact, hg.exact, by simp⟩

theorem isReadAs_ordered {e : Execution} (h : ∀ o ∈ e.records, o.Plain) :
    e.IsReadAs e.toJson.ordered := by
  cases e with
  | single kind run =>
    rw [toJson, SingleRun.toJson_eq]
    exact (h _ List.mem_cons_self).isReadAs_ordered
  | all s =>
    simp only [records, List.forall_mem_cons] at h
    obtain ⟨hd, hr, hg, _⟩ := h
    refine ⟨_, _, _, ?_, hd.isReadAs_ordered, hr.isReadAs_ordered, hg.isReadAs_ordered⟩
    rw [toJson, Survey.toJson, ordered, orderedMembers_eq_map, Members.ofList_eq_self]
    · rfl
    · have hkeys : ["definition", "references", "signature"].Pairwise (· < ·) := by decide
      exact List.pairwise_map.mp hkeys

theorem IsReadAs.depth_le_iff {e : Execution} {v : Json} (h : e.IsReadAs v) :
    v.depth ≤ maxNesting ↔ ∀ o ∈ e.records, ∀ d ∈ o.data, d.depth ≤ e.room := by
  cases e with
  | single kind run =>
    have hiff : v.depth ≤ 126 + 1 ↔ _ := Outcome.IsReadAs.depth_le_iff h
    rw [show maxNesting = 126 + 1 from rfl, hiff]
    simp [records, room]
  | all s =>
    obtain ⟨d, r, g, rfl, hd, hr, hg⟩ := h
    rw [show maxNesting = 125 + 1 + 1 from rfl, depth_obj_le_iff]
    simp only [List.forall_mem_cons, records, room, hd.depth_le_iff, hr.depth_le_iff,
      hg.depth_le_iff]
    simp

theorem IsReadAs.records_eq {e e' : Execution} (hform : e'.isSurvey = e.isSurvey) {v : Json}
    (h : e.IsReadAs v) (h' : e'.IsReadAs v) : e'.records = e.records := by
  cases e with
  | single kind run =>
    cases e' with
    | single kind' run' => exact congrArg (fun o => [o]) (Outcome.IsReadAs.unique h' h)
    | all s' => cases hform
  | all s =>
    cases e' with
    | single kind' run' => cases hform
    | all s' =>
      obtain ⟨d, r, g, rfl, hd, hr, hg⟩ := h
      obtain ⟨d', r', g', heq, hd', hr', hg'⟩ := h'
      cases heq
      rw [records, records, hd'.unique hd, hr'.unique hr, hg'.unique hg]

end Execution

/-- What is printed of an execution can be read back unless its data nests too deep, and reads as
the records it was printed from and no others. -/
theorem printed_records_read_back (e : Execution) (h : ∀ o ∈ e.records, o.Plain) :
    ((∃ v, Json.parse (Utf8.encode e.json) = .ok v) ↔
      ∀ o ∈ e.records, ∀ d ∈ o.data, d.depth ≤ e.room) ∧
    (∀ v, Json.parse (Utf8.encode e.json) = .ok v → e.IsReadAs v) ∧
    ∀ e' : Execution, (∀ o ∈ e'.records, o.Plain) → e'.isSurvey = e.isSurvey →
      e'.json = e.json → e'.records = e.records := by
  have hexact := Execution.exact_toJson h
  have hread := Execution.isReadAs_ordered h
  have hparsed {v : Json} (hv : Json.parse (Utf8.encode e.json) = .ok v) : v = e.toJson.ordered :=
    eq_ordered_of_parse_write Layout.pretty_isBlank hexact hv
  -- What is read is the ordered value: it bounds the nesting of the data and gives the fields back.
  refine ⟨⟨?_, fun hdepth => ?_⟩, fun v hv => ?_, fun e' h' hform htext => ?_⟩
  · rintro ⟨v, hv⟩
    have hdepth := (parse_kept hv).2
    rwa [hparsed hv, hread.depth_le_iff] at hdepth
  · refine ⟨_, parse_write Layout.pretty_isBlank hexact 0 ?_⟩
    exact e.isReadAs_toJson.depth_le_iff.mpr hdepth
  · rw [hparsed hv]
    exact hread
  · have hexact' := Execution.exact_toJson h'
    have hordered := ordered_eq_of_write_eq Layout.pretty_isBlank hexact' hexact htext
    have hread' := Execution.isReadAs_ordered h'
    rw [hordered] at hread'
    exact hread.records_eq hform hread'

/-- Empty lists inside each other. -/
private def nest : Nat → Json
  | 0 => .arr []
  | n + 1 => .arr [nest n]

private theorem nest_shape (n : Nat) :
    (nest n).Exact ∧ (nest n).isFloatFree = true ∧ (nest n).depth = n + 1 ∧
      (nest n).ordered = nest n := by
  induction n with
  | zero => exact ⟨.arr (by simp), rfl, rfl, rfl⟩
  | succ n ih =>
    obtain ⟨hexact, hfree, hdepth, hordered⟩ := ih
    refine ⟨.arr (by simpa using hexact), ?_, ?_, ?_⟩
    · simp [nest, isFloatFree, areFloatFree, hfree]
    · simp [nest, depth, depthOfItems, hdepth]
    · simp [nest, ordered, orderedItems, hordered]

private theorem nest_plain {n : Nat} (h : n < 127) (code : UInt16) :
    (Outcome.succeeded (nest n) code.toNat).Plain := by
  obtain ⟨hexact, hfree, hdepth, hordered⟩ := nest_shape n
  have hparse : Json.parse (Utf8.encode (nest n).compact) = .ok (nest n) := by
    have hread := parse_write Layout.compact_isBlank hexact 0 (show _ ≤ maxNesting by
      rw [hdepth]
      exact h)
    rwa [hordered] at hread
  constructor
  · rintro _ ⟨⟩
    exact code.toNat_lt
  · rintro _ ⟨⟩
    exact hfree
  · rintro _ ⟨⟩
    exact ⟨_, hparse⟩

private def nestRun (n : Nat) : Execution :=
  .single .definition (.locations (.succeeded ⟨nest n⟩ 200))

private theorem nestRun_plain {n : Nat} (h : n < 127) : ∀ o ∈ (nestRun n).records, o.Plain := by
  rintro o (_ | ⟨_, ⟨⟩⟩)
  exact nest_plain h 200

/-- A reply may nest 127 lists, and its record is then refused; with one list less it is read. -/
theorem deepest_record_read_back :
    (∀ o ∈ (nestRun 125).records, o.Plain) ∧ (∀ o ∈ (nestRun 126).records, o.Plain) ∧
    (∃ v, Json.parse (Utf8.encode (nestRun 125).json) = .ok v ∧ (nestRun 125).IsReadAs v) ∧
    ¬∃ v, Json.parse (Utf8.encode (nestRun 126).json) = .ok v := by
  have hless := nestRun_plain (show 125 < 127 by decide)
  have hmost := nestRun_plain (show 126 < 127 by decide)
  obtain ⟨haccept, hread, _⟩ := printed_records_read_back (nestRun 125) hless
  obtain ⟨v, hv⟩ := haccept.mpr (by
    rintro o (_ | ⟨_, ⟨⟩⟩) d ⟨⟩
    exact Nat.le_of_eq (nest_shape 125).2.2.1)
  refine ⟨hless, hmost, ⟨v, hv, hread v hv⟩, fun hv => ?_⟩
  have hdepth := (printed_records_read_back (nestRun 126) hmost).1.mp hv
  have hle := hdepth _ List.mem_cons_self (nest 126) rfl
  rw [(nest_shape 126).2.2.1] at hle
  exact absurd hle (by decide)

end LspProbe
