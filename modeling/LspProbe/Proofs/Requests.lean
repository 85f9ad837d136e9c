import LspProbe.Proofs.Positions
import LspProbe.Proofs.Wire

/-!
# Bodies of queries

A query is sent as the members of its position, and the body says neither more nor less than the
query: its members are read back as they were written, the position in it is the one that was
asked about, and two queries of a kind have one body only if they ask the same.
-/

namespace LspProbe

private theorem Json.nat_toNat_inj {m n : UInt32} :
    Json.nat m.toNat = Json.nat n.toNat ↔ m = n := by
  rw [nat, nat, num.injEq, Number.int.injEq, Int.natCast_inj, UInt32.toNat_inj]

theorem Position.members_inj {p p' : Position} : p.members = p'.members ↔ p = p' := by
  constructor
  · intro h
    obtain ⟨uri, line, character⟩ := p
    obtain ⟨uri', line', character'⟩ := p'
    simp only [members, List.cons.injEq, Prod.mk.injEq, Json.str.injEq, true_and, and_true] at h
    obtain ⟨huri, hline, hcharacter⟩ := h
    rw [huri, Json.nat_toNat_inj.mp hline, Json.nat_toNat_inj.mp hcharacter]
  · rintro rfl
    rfl

namespace Query

/-- The query of a kind about a place, after its flag was set a number of times. -/
def flagged (kind : QueryKind) (t : Target) (flags : List Bool) : Query :=
  flags.foldl includingDeclaration (.ofKind kind t.position)

/-- What a kind of query says of declarations after its flag was set: the last setting counts, and
declarations are included unless there is one. Only a references query has the flag. -/
def lastFlag? (kind : QueryKind) (flags : List Bool) : Option Bool :=
  if kind = .references then some (flags.getLastD true) else none

private theorem position_foldl (q : Query) (flags : List Bool) :
    (flags.foldl includingDeclaration q).position = q.position := by
  induction flags generalizing q with
  | nil => rfl
  | cons b rest ih =>
    rw [List.foldl_cons, ih]
    cases q <;> rfl

private theorem declaration?_foldl (q : Query) (flags : List Bool) :
    (flags.foldl includingDeclaration q).declaration? =
      q.declaration?.map fun first => flags.getLastD first := by
  induction flags generalizing q with
  | nil => cases q <;> rfl
  | cons b rest ih =>
    rw [List.foldl_cons, ih]
    cases q with
    | definition p => rfl
    | signature p => rfl
    | references p first =>
      rw [includingDeclaration, declaration?, declaration?, Option.map_some, Option.map_some,
        List.getLastD_cons]

private theorem position_flagged (kind : QueryKind) (t : Target) (flags : List Bool) :
    (flagged kind t flags).position = t.position := by
  rw [flagged, position_foldl, position_ofKind]

private theorem declaration?_flagged (kind : QueryKind) (t : Target) (flags : List Bool) :
    (flagged kind t flags).declaration? = lastFlag? kind flags := by
  rw [flagged, declaration?_foldl]
  cases kind <;> rfl

/-- The members of a query, from what it asks. -/
private theorem members_eq (q : Query) :
    q.members = q.position.members ++
      (q.declaration?.map fun b => ("includeDeclaration", Json.bool b)).toList := by
  cases q with
  | definition p => exact (List.append_nil _).symm
  | references p b => rfl
  | signature p => exact (List.append_nil _).symm

theorem members_eq_iff {q q' : Query} :
    q.members = q'.members ↔
      q.position = q'.position ∧ q.declaration? = q'.declaration? := by
  rw [members_eq, members_eq]
  constructor
  · intro h
    obtain ⟨hposition, hflag⟩ := List.append_inj h rfl
    refine ⟨Position.members_inj.mp hposition, ?_⟩
    revert hflag
    cases q.declaration? <;> cases q'.declaration? <;> simp
  · rintro ⟨hposition, hflag⟩
    rw [hposition, hflag]

/-- Each member is written as it is sent, in the same order. -/
private theorem exists_separated_body (q : Query) :
    ∃ s, Utf8.encode q.body = Ascii.openBrace :: (s ++ [Ascii.closeBrace]) ∧
      Json.Separated (Json.IsMember (Json.IsText (Json.maxNesting - 1))) q.members s := by
  have hne : q.members ≠ [] := by
    rw [members_eq]
    exact List.cons_ne_nil _ _
  have hordered : q.members.map (fun m => (m.1, m.2.ordered)) = q.members := by
    refine (List.map_congr_left fun m hm => ?_).trans q.members.map_id
    rcases q.mem_members hm with rfl | rfl | rfl | ⟨b, rfl⟩ <;> rfl
  have hexact : ∀ m ∈ q.members, m.2.Exact := by
    cases q.exact_members with
    | obj h => exact h
  have hdepth := Json.depth_obj_le_iff.mp q.depth_members
  obtain ⟨s, hs, hseparated⟩ := Json.exists_separated_write Json.Layout.compact_isBlank hne 0
    fun m hm => Json.isText_write Json.Layout.compact_isBlank (hexact m hm) 1 (hdepth m hm)
  rw [hordered] at hseparated
  exact ⟨s, hs, hseparated⟩

private theorem writtenMembers_body (q : Query) :
    Json.writtenMembers (Utf8.encode q.body) = q.members := by
  obtain ⟨s, hs, hseparated⟩ := q.exists_separated_body
  have hblanks : Json.Blanks [] := by simp [Json.Blanks]
  have hwritten := Json.writtenMembers_of_separated hseparated hblanks []
  rwa [List.nil_append, List.append_nil, ← hs] at hwritten

/-- The body of a query of any kind is a text of the position it asks about. -/
theorem parse_position_body (q : Query) :
    Position.parse (Utf8.encode q.body) = .ok q.position := by
  obtain ⟨s, hs, hseparated⟩ := q.exists_separated_body
  have hblanks : Json.Blanks [] := by simp [Json.Blanks]
  have hread := Position.toOption_parse hblanks (Position.reader_object hseparated) hblanks
  rw [List.nil_append, List.append_nil, ← hs] at hread
  rw [← toOption_eq_some_iff, hread, Position.ofMembers?_eq_some_iff]
  cases q <;> exact ⟨rfl, rfl, rfl⟩

theorem body_eq_iff {q q' : Query} :
    q.body = q'.body ↔ q.position = q'.position ∧ q.declaration? = q'.declaration? := by
  rw [← members_eq_iff]
  constructor
  · intro h
    rw [← writtenMembers_body, h, writtenMembers_body]
  · intro h
    rw [body, h, body]

end Query

theorem Target.position_inj {t t' : Target} : t.position = t'.position ↔ t = t' := by
  constructor
  · intro h
    obtain ⟨file, line, character⟩ := t
    obtain ⟨file', line', character'⟩ := t'
    obtain ⟨huri, hline, hcharacter⟩ := Position.mk.inj h
    have hfile : file = file' := (String.append_right_inj "file://").mp huri
    rw [hfile, show line = line' from hline, show character = character' from hcharacter]
  · rintro rfl
    rfl

/-- The body of a query is a text of what it asks: an object of the place and, for references, of
the last setting of the flag. The place is read back from it, and the bodies of two queries of a
kind are the same exactly if they ask the same. -/
theorem request_bodies_faithful (kind : QueryKind) :
    (∀ (t : Target) (flags : List Bool),
      Json.parse (Utf8.encode (Query.flagged kind t flags).body) =
        .ok (t.asked (Query.lastFlag? kind flags)) ∧
      Position.parse (Utf8.encode (Query.flagged kind t flags).body) =
        .ok (.ofFile t.file t.line t.character)) ∧
    (∀ (t t' : Target) (flags flags' : List Bool),
      (Query.flagged kind t flags).body = (Query.flagged kind t' flags').body ↔
        t = t' ∧ Query.lastFlag? kind flags = Query.lastFlag? kind flags') ∧
    ∀ p : Position, Position.parse (Utf8.encode p.toJson.compact) = .ok p := by
  refine ⟨fun t flags => ⟨?_, ?_⟩, fun t t' flags flags' => ?_, fun p => ?_⟩
  · rw [Query.parse_body (Query.position_flagged kind t flags), Query.declaration?_flagged]
  · rw [Query.parse_position_body, Query.position_flagged]
    rfl
  · rw [Query.body_eq_iff, Query.position_flagged, Query.position_flagged,
      Query.declaration?_flagged, Query.declaration?_flagged, Target.position_inj]
  · exact (Query.definition p).parse_position_body

end LspProbe
