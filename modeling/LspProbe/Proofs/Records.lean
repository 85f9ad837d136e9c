import LspProbe.Program

/-!
# The records of a run

An execution holds one record for each query of its test. What a run comes to is what its queries
come to, asked in turn, each on the replies that the one before it left.
-/

namespace LspProbe

open Http

/-- The record that a run of one query prints. -/
def SingleRun.record : SingleRun → Outcome Json
  | .locations o => o.map Locations.body
  | .signature o => o.map SignatureReply.body

namespace Execution

/-- The record of each query, in the order in which they were asked. -/
def records : Execution → List (Outcome Json)
  | .single _ run => [run.record]
  | .all survey =>
    [survey.definition.map Locations.body, survey.references.map Locations.body,
      survey.signature.map SignatureReply.body]

def isSurvey : Execution → Bool
  | .single _ _ => false
  | .all _ => true

end Execution

theorem SingleRun.toJson_eq (run : SingleRun) : run.toJson = run.record.toJson := by
  cases run <;> rfl

theorem SingleRun.success_eq (run : SingleRun) : run.success = run.record.success := by
  cases run <;> rfl

/-- The records of a survey, counted by success. -/
theorem Survey.successCount_eq (s : Survey) :
    s.successCount = (Execution.all s).records.countP (·.success) := by
  have hmarks : s.entries.map (·.2) = (Execution.all s).records.map (·.success) := rfl
  calc s.successCount = s.entries.countP (id ∘ (·.2)) := List.countP_eq_length_filter.symm
    _ = (s.entries.map (·.2)).countP id := List.countP_map.symm
    _ = ((Execution.all s).records.map (·.success)).countP id := by rw [hmarks]
    _ = (Execution.all s).records.countP (·.success) := List.countP_map

/-- An execution fails by its records: a single query if its own is a failure, a survey only in a
strict run, if any of them is. -/
theorem Execution.isFailure_iff (e : Execution) (strict : Bool) :
    e.isFailure strict = true ↔
      (e.isSurvey = true → strict = true) ∧ ∃ o ∈ e.records, o.success = false := by
  cases e with
  | single kind run => simp [isFailure, isSurvey, records, SingleRun.success_eq]
  | all s =>
    have hcount : s.successCount < s.total ↔
        ∃ o ∈ (Execution.all s).records, o.success = false := by
      have htotal : s.total = (Execution.all s).records.length := rfl
      have hle := (Execution.all s).records.countP_le_length (p := (·.success))
      have hall := (Execution.all s).records.countP_eq_length (p := (·.success))
      rw [Survey.successCount_eq, htotal, Nat.lt_iff_le_and_ne, and_iff_right hle, Ne, hall]
      simp
    simp only [isFailure, isSurvey, Bool.and_eq_true, decide_eq_true_eq, hcount, true_implies]

/-- The queries of a test. Only a test of references alone heeds `includeDeclaration`. -/
def TestKind.queries (test : TestKind) (p : Position) (includeDeclaration : Bool) : List Query :=
  match test with
  | .single .definition => [.definition p]
  | .single .references => [.references p includeDeclaration]
  | .single .signature => [.signature p]
  | .all => [.definition p, .references p true, .signature p]

namespace Client

/-- Asks queries one after the other. -/
def askAll (c : Client) : List Query → Script → List (Asked (Outcome Json))
  | [], _ => []
  | q :: rest, script => c.ask q script :: c.askAll rest (c.ask q script).left

section

variable (c : Client) (test : TestKind) (target : Target) (includeDeclaration : Bool)
  (script : Script)

private theorem run_parts :
    (c.run test target includeDeclaration script).requests =
      (c.askAll (test.queries target.position includeDeclaration) script).flatMap
        Asked.requests ∧
    (c.run test target includeDeclaration script).log =
      (c.askAll (test.queries target.position includeDeclaration) script).flatMap Asked.log := by
  cases test with
  | single kind =>
    cases kind <;>
      simp only [run, findDefinition, findReferences, signatureHelp, Asked.map, TestKind.queries,
        askAll, List.flatMap_cons, List.flatMap_nil, List.append_nil, and_self]
  | all =>
    simp only [run, survey, findDefinition, findReferences, signatureHelp, Asked.map,
      TestKind.queries, askAll, List.flatMap_cons, List.flatMap_nil, List.append_nil,
      List.append_assoc, and_self]

theorem run_requests :
    (c.run test target includeDeclaration script).requests =
      (c.askAll (test.queries target.position includeDeclaration) script).flatMap
        Asked.requests :=
  (run_parts c test target includeDeclaration script).1

theorem run_log :
    (c.run test target includeDeclaration script).log =
      (c.askAll (test.queries target.position includeDeclaration) script).flatMap Asked.log :=
  (run_parts c test target includeDeclaration script).2

theorem run_records :
    (c.run test target includeDeclaration script).result.records =
      (c.askAll (test.queries target.position includeDeclaration) script).map Asked.result := by
  have hlocations (o : Outcome Json) : (o.map Locations.mk).map Locations.body = o :=
    Outcome.map_map_of_inverse fun _ _ => rfl
  have hsignature (o : Outcome Json) : (o.map SignatureReply.mk).map SignatureReply.body = o :=
    Outcome.map_map_of_inverse fun _ _ => rfl
  cases test with
  | single kind =>
    cases kind <;>
      simp only [run, findDefinition, findReferences, signatureHelp, Asked.map, TestKind.queries,
        askAll, Execution.records, SingleRun.record, hlocations, hsignature, List.map_cons,
        List.map_nil]
  | all =>
    simp only [run, survey, findDefinition, findReferences, signatureHelp, Asked.map,
      TestKind.queries, askAll, Execution.records, hlocations, hsignature, List.map_cons,
      List.map_nil]

end

end Client

namespace Program

open CommandLine

theorem run_eq {w : World} {arguments : List String} {o : Options}
    (h : parse arguments = .ok (.run o)) :
    run w arguments =
      if w.pathExists o.target.file then query w o
      else ⟨1, "", "File does not exist: " ++ o.target.file ++ "\n", []⟩ := by
  rw [run, h]

end Program

end LspProbe
