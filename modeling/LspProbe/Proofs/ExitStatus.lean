import LspProbe.Proofs.Records
import LspProbe.Proofs.Reports
import LspProbe.Proofs.Spelling
import Mathlib.Control.Monad.Basic

/-!
# Exit statuses

The exit status of a program tells what its output tells: a mistake on the command line, a missing
file, or what became of the queries. The lines that close a survey are the last ones, whatever a
server put into the lines before them.
-/

namespace LspProbe

open Http Program CommandLine

namespace Report

private theorem exists_joinLines_cons (line : String) (rest : List String) :
    ∃ tail, joinLines (line :: rest) = line ++ tail := by
  cases rest with
  | nil => exact ⟨"", by simp [joinLines, String.intercalate_singleton]⟩
  | cons next rest =>
    exact ⟨"\n" ++ joinLines (next :: rest), by
      simp only [joinLines, String.intercalate_cons_cons, String.append_assoc]⟩

/-- A report opens with the word that its outcome failed exactly if it did. -/
private theorem failed_isPrefix_iff {α : Type} (kind : QueryKind) (body : α → List String)
    (o : Outcome α) :
    (kind.name ++ " failed: ").toList <+: (joinLines (outcomeLines kind body o)).toList ↔
      o.success = false := by
  obtain ⟨rest, hrest⟩ : ∃ rest, outcomeLines kind body o = statusLine kind o :: rest := ⟨_, rfl⟩
  obtain ⟨tail, htail⟩ := exists_joinLines_cons (statusLine kind o) rest
  rw [hrest, htail, statusLine]
  cases o.success with
  | false =>
    simp only [Bool.false_eq_true, if_false, iff_true, String.toList_append, List.append_assoc,
      List.prefix_append_right_inj]
    exact List.prefix_append _ _
  | true =>
    -- The words part at their first letter, after the name of the query.
    cases o.statusCode with
    | none => simp [List.prefix_append_right_inj]
    | some code => simp [List.prefix_append_right_inj]

end Report

/-- How the lines that close a survey mark a query. -/
def Survey.mark (success : Bool) : String := if success then "ok" else "FAILED"

/-- The lines that close a survey whose queries had these successes. -/
def Survey.closing (d r g : Bool) : List String :=
  ["Summary:", "Succeeded: " ++ toString ([d, r, g].countP id) ++ "/3",
    "  definition: " ++ mark d, "  references: " ++ mark r, "  signature: " ++ mark g]

private theorem Survey.summary_eq (s : Survey) :
    s.summary =
      Report.joinLines
        (closing s.definition.success s.references.success s.signature.success) := by
  have hcount : s.successCount =
      [s.definition.success, s.references.success, s.signature.success].countP id :=
    s.successCount_eq
  have htotal : s.total = 3 := rfl
  have hthree : "/" ++ toString 3 = "/3" := by decide
  rw [summary, hcount, htotal, String.append_assoc, hthree]
  rfl

private theorem Survey.newline_not_mem_closing (d r g : Bool) :
    ∀ line ∈ closing d r g, '\n' ∉ line.toList := by
  revert d r g
  decide

/-- Whatever the lines before them, the closing lines of a survey are the last ones. -/
theorem Survey.splitAt_summary (s : Survey) (before : String) :
    Text.splitAt '\n' (before ++ "\n\n" ++ s.summary ++ "\n").toList =
      Text.splitAt '\n' (before ++ "\n").toList ++
        (closing s.definition.success s.references.success s.signature.success).map
          String.toList ++ [[]] := by
  have hlines := Text.splitAt_joinLines (by simp [closing])
    (newline_not_mem_closing s.definition.success s.references.success s.signature.success)
  have htext : (before ++ "\n\n" ++ s.summary ++ "\n").toList =
      ((before ++ "\n").toList ++ '\n' :: s.summary.toList) ++ '\n' :: [] := by
    simp
  rw [htext, Text.splitAt_append, Text.splitAt_append, summary_eq, hlines]
  rfl

namespace Program

/-- A run of one query with this record and this text, however it is printed and judged. -/
structure ShowsRecord (w : World) (o : Options) (kind : QueryKind) (r : Outcome Json)
    (text : String) : Prop where
  printed_json : ∀ strict,
    (query w { o with json := true, strict := strict }).stdout = r.toJson.pretty ++ "\n"
  printed_text : ∀ strict,
    (query w { o with json := false, strict := strict }).stdout =
      Report.banner kind o.target.file o.target.line o.target.character
        (if kind = .references then some o.includeDeclaration else none) ++ "\n" ++ text ++ "\n"
  exit_iff : ∀ json strict,
    (query w { o with json := json, strict := strict }).exit = 1 ↔ r.success = false
  failed_iff : r.success = false ↔ (kind.name ++ " failed: ").toList <+: text.toList

/-- A run of all queries with these records, however it is printed and judged. -/
structure ShowsSurvey (w : World) (o : Options) (d r g : Outcome Json) : Prop where
  printed_json : ∀ strict,
    (query w { o with json := true, strict := strict }).stdout =
      (Json.obj [("definition", d.toJson), ("references", r.toJson),
        ("signature", g.toJson)]).pretty ++ "\n"
  printed_text : ∀ strict, ∃ before,
    Text.splitAt '\n' (query w { o with json := false, strict := strict }).stdout.toList =
      before ++ (Survey.closing d.success r.success g.success).map String.toList ++ [[]]
  exit_iff : ∀ json strict,
    (query w { o with json := json, strict := strict }).exit = 1 ↔
      strict = true ∧ ∃ record ∈ [d, r, g], record.success = false

theorem query_exit_iff (w : World) (o : Options) :
    (query w o).exit = 1 ↔ (asked w o).result.isFailure o.strict = true := by
  simp only [query]
  cases (asked w o).result.isFailure o.strict <;> simp

private theorem query_exit_cases (w : World) (o : Options) :
    (query w o).exit = 0 ∨ (query w o).exit = 1 := by
  simp only [query]
  cases (asked w o).result.isFailure o.strict <;> simp

end Program

attribute [local irreducible] exchange

private theorem Client.run_single (c : Client) (kind : QueryKind) (target : Target) (b : Bool)
    (script : Script) :
    ∃ run : SingleRun, (c.run (.single kind) target b script).result = .single kind run ∧
      (run.record.success = false ↔
        (kind.name ++ " failed: ").toList <+: (run.text kind).toList) := by
  have hlocations (kind : QueryKind) (o : Outcome Locations) :
      (SingleRun.locations o).record.success = false ↔
        (kind.name ++ " failed: ").toList <+: ((SingleRun.locations o).text kind).toList :=
    (Report.failed_isPrefix_iff kind (Report.locationsBody kind) o).symm
  have hsignature (o : Outcome SignatureReply) :
      (SingleRun.signature o).record.success = false ↔
        (QueryKind.signature.name ++ " failed: ").toList <+:
          ((SingleRun.signature o).text .signature).toList :=
    (Report.failed_isPrefix_iff .signature Report.signaturesBody o).symm
  cases kind with
  | definition => exact ⟨_, rfl, hlocations _ _⟩
  | references => exact ⟨_, rfl, hlocations _ _⟩
  | signature => exact ⟨_, rfl, hsignature _⟩

namespace Program

theorem showsRecord (w : World) {o : Options} {kind : QueryKind} (h : o.test = .single kind) :
    ∃ r text, ShowsRecord w o kind r text := by
  obtain ⟨run, hrun, hfailed⟩ :=
    Client.run_single ⟨o.config, w.network⟩ kind o.target o.includeDeclaration w.script
  have hasked (json strict : Bool) :
      (asked w { o with json := json, strict := strict }).result = .single kind run := by
    rw [← hrun, ← h]
    rfl
  refine ⟨run.record, run.text kind, fun strict => ?_, fun strict => ?_, fun json strict => ?_,
    hfailed⟩
  · rw [query, hasked true strict, output, if_pos rfl, Execution.json, Execution.toJson,
      SingleRun.toJson_eq]
  · rw [query, hasked false strict]
    rfl
  · rw [query_exit_iff, hasked json strict, Execution.isFailure_iff]
    simp [Execution.isSurvey, Execution.records]

theorem showsSurvey (w : World) {o : Options} (h : o.test = .all) :
    ∃ d r g, ShowsSurvey w o d r g := by
  obtain ⟨s, hs⟩ : ∃ s, (asked w o).result = .all s := by
    refine ⟨(Client.survey ⟨o.config, w.network⟩ o.target.position w.script).result, ?_⟩
    rw [asked, h]
    rfl
  have hasked (json strict : Bool) :
      (asked w { o with json := json, strict := strict }).result = .all s := hs
  refine ⟨s.definition.map Locations.body, s.references.map Locations.body,
    s.signature.map SignatureReply.body, fun strict => ?_, fun strict => ?_,
    fun json strict => ?_⟩
  · rw [query, hasked true strict]
    rfl
  · rw [query, hasked false strict, output, if_neg Bool.false_ne_true, Execution.text]
    simp only [String.intercalate_cons_cons, String.intercalate_singleton, ← String.append_assoc]
    exact ⟨_, s.splitAt_summary _⟩
  · rw [query_exit_iff, hasked json strict, Execution.isFailure_iff]
    simp only [Execution.isSurvey, Execution.records, true_implies]

end Program

/-- The exit status of a program that is asked neither for help nor for its version agrees with
what it printed. -/
theorem exit_agrees_with_output (w : World) (arguments : List String)
    (h : ∀ n, parse arguments ≠ .ok (.notice n)) :
    (∀ e, parse arguments = .error e →
      (run w arguments).exit = 2 ∧ (run w arguments).stdout = "" ∧
        (run w arguments).requests = []) ∧
    (∀ name, TestKind.ofName? name = none →
      "--test=" ++ name ∈ arguments ∨ ["--test", name] <:+: arguments →
      ∃ e, parse arguments = .error e) ∧
    ∀ o, parse arguments = .ok (.run o) →
      (w.pathExists o.target.file = false →
        (run w arguments).exit = 1 ∧ (run w arguments).stdout = "" ∧
          (run w arguments).requests = []) ∧
      (w.pathExists o.target.file = true →
        run w arguments = query w o ∧
        ((run w arguments).exit = 0 ∨ (run w arguments).exit = 1) ∧
        (∀ kind, o.test = .single kind → ∃ r text, ShowsRecord w o kind r text) ∧
        (o.test = .all → ∃ d r g, ShowsSurvey w o d r g)) := by
  refine ⟨fun e he => ?_, fun name hname hmem => ?_, fun o ho => ⟨fun hfile => ?_, fun hfile => ?_⟩⟩
  · rw [run, he]
    exact ⟨rfl, rfl, rfl⟩
  · cases hparse : parse arguments with
    | error e => exact ⟨e, rfl⟩
    | ok command =>
      cases command with
      | run o => exact absurd hname (ofName?_ne_none_of_parse hparse hmem)
      | notice n => exact absurd hparse (h n)
  · rw [run_eq ho, if_neg (by simp [hfile])]
    exact ⟨rfl, rfl, rfl⟩
  · rw [run_eq ho, if_pos hfile]
    exact ⟨rfl, query_exit_cases w o, fun kind hkind => showsRecord w hkind, showsSurvey w⟩

private def surveyArguments : List String :=
  ["--file=/a.ets", "--strict", "--line", "20", "--character", "28"]

private def surveyOptions : Options :=
  ⟨.all, ⟨"/a.ets", 20, 28⟩, Config.defaultBaseUrl, false, 30, false, true⟩

private def hoverArguments : List String :=
  ["--test", "hover", "--file=/a.ets", "--line", "20", "--character", "28"]

private def faultyWorld : World where
  pathExists _ := true
  server := ⟨3000, true⟩
  script := [.close, .garbage]
  logLevel := .error

private theorem parse_surveyArguments : parse surveyArguments = .ok (.run surveyOptions) := by
  decide +kernel

private theorem parse_hoverArguments :
    parse hoverArguments = .error (.unknownTest "hover") := by
  decide +kernel

/-- A strict survey of a server that breaks off, then sends something else than HTTP, and then has
no reply left, and a test that does not exist. -/
theorem exit_of_survey_and_unknown_test :
    ((∀ n, parse surveyArguments ≠ .ok (.notice n)) ∧
      parse surveyArguments = .ok (.run surveyOptions) ∧
      faultyWorld.pathExists surveyOptions.target.file = true ∧ surveyOptions.test = .all) ∧
    (∃ d r g, ShowsSurvey faultyWorld surveyOptions d r g) ∧
    (run faultyWorld surveyArguments).requests.length = 3 ∧
    ((∀ n, parse hoverArguments ≠ .ok (.notice n)) ∧ TestKind.ofName? "hover" = none ∧
      ["--test", "hover"] <:+: hoverArguments) ∧
    (run faultyWorld hoverArguments).exit = 2 := by
  have hrun : ∀ n, parse surveyArguments ≠ .ok (.notice n) := by
    intro n hn
    rw [parse_surveyArguments] at hn
    cases hn
  have hhover : ∀ n, parse hoverArguments ≠ .ok (.notice n) := by
    intro n hn
    rw [parse_hoverArguments] at hn
    cases hn
  have hinfix : ["--test", "hover"] <:+: hoverArguments := by decide
  obtain ⟨_, _, hsurvey⟩ := exit_agrees_with_output faultyWorld surveyArguments hrun
  obtain ⟨hrejected, hunknown, _⟩ := exit_agrees_with_output faultyWorld hoverArguments hhover
  obtain ⟨e, he⟩ := hunknown "hover" (by decide) (.inr hinfix)
  exact ⟨⟨hrun, parse_surveyArguments, rfl, rfl⟩,
    ((hsurvey _ parse_surveyArguments).2 rfl).2.2.2 rfl, by decide +kernel,
    ⟨hhover, by decide, hinfix⟩, (hrejected e he).1⟩

end LspProbe
