import LspProbe.Proofs.Messages
import LspProbe.Proofs.ReadBack
import Mathlib.Data.List.Forall2

/-!
# What a log tells

A log mirrors the records of its run: at the level of warnings it has a line for each failure, with
the error of the record, and at the level of debugging one more line for each query that was sent
and for each that was answered. Errors are printable, so nothing in them is lost or broken into
lines. Addresses hold what the base URL holds, and are shown without escapes and controls.
-/

namespace LspProbe

open Http Text

namespace Text.Terminal

/-- A character that is shown wherever no sequence is open: a blank of the layout, or no control. -/
def IsPlain (c : Char) : Prop :=
  c ∈ ['\t', '\n', '\r', '\x0c'] ∨ 0x20 ≤ c.toNat ∧ c.toNat ≠ 0x7F

instance : DecidablePred IsPlain := fun c =>
  inferInstanceAs (Decidable (c ∈ ['\t', '\n', '\r', '\x0c'] ∨ 0x20 ≤ c.toNat ∧ c.toNat ≠ 0x7F))

private theorem shows_ground_iff {c : Char} : State.ground.shows c = true ↔ IsPlain c := by
  simp [State.shows, isLayout, IsPlain, or_assoc]

private theorem Reader.step_of_plain {c : Char} (h : IsPlain c) (isShowing : Bool) :
    Reader.step ⟨isShowing, .ground⟩ c = (⟨true, .ground⟩, true) := by
  have hshows := shows_ground_iff.mpr h
  cases isShowing <;> simp [step, skip, hshows]

private theorem visibleFrom_of_plain {cs : List Char} (h : ∀ c ∈ cs, IsPlain c) (isShowing : Bool) :
    visibleFrom ⟨isShowing, .ground⟩ cs = cs := by
  induction cs generalizing isShowing with
  | nil => rfl
  | cons c rest ih =>
    rw [List.forall_mem_cons] at h
    simp only [visibleFrom, Reader.step_of_plain h.1, if_true, ih h.2]

theorem visible_of_plain {s : String} (h : Only IsPlain s) : visible s = s := by
  rw [visible, visibleFrom_of_plain h, String.ofList_toList]

private theorem Reader.step_escape (r : Reader) : (r.step '\x1b').2 = false := by
  obtain ⟨isShowing, state⟩ := r
  cases isShowing <;> cases state <;> decide

/-- No escape is ever shown. -/
theorem escape_not_mem_visible (s : String) : '\x1b' ∉ (visible s).toList := by
  have hfrom (r : Reader) (cs : List Char) : '\x1b' ∉ visibleFrom r cs := by
    induction cs generalizing r with
    | nil => simp [visibleFrom]
    | cons c rest ih =>
      simp only [visibleFrom]
      split
      · next hshown =>
        have hc : '\x1b' ≠ c := by
          rintro rfl
          rw [Reader.step_escape] at hshown
          cases hshown
        exact List.not_mem_cons_of_ne_of_not_mem hc (ih _)
      · exact ih _
  rw [visible, String.toList_ofList]
  exact hfrom _ _

end Text.Terminal

open Terminal

namespace Log

theorem indent_of_single {message : String} (h : '\n' ∉ message.toList) :
    indent message = message := by
  have hchars {cs : List Char} (h : '\n' ∉ cs) :
      (cs.flatMap fun c => if c = '\n' then "\n    ".toList else [c]) = cs := by
    induction cs with
    | nil => rfl
    | cons c rest ih =>
      rw [List.mem_cons, not_or] at h
      have hc : c ≠ '\n' := fun heq => h.1 heq.symm
      rw [List.flatMap_cons, if_neg hc, ih h.2, List.singleton_append]
  rw [indent, hchars h, String.ofList_toList]

private theorem text_of_plain (level : Level) {source message : String}
    (hsource : Only IsPlain source) (hmessage : Only IsPlain message)
    (hline : '\n' ∉ message.toList) :
    Entry.text ⟨level, source, message⟩ =
      "[" ++ level.label ++ " " ++ source ++ "] " ++ message ++ "\n" := by
  have hlabel : Only IsPlain level.label := by cases level <;> decide
  rw [Entry.text, indent_of_single hline, visible_of_plain]
  simp only [only_append]
  exact ⟨⟨⟨⟨⟨⟨by decide, hlabel⟩, by decide⟩, hsource⟩, by decide⟩, hmessage⟩, by decide⟩

/-- What is written of entries at a level. -/
def written (level : Level) (entries : List Entry) : List String :=
  (shown level entries).map Entry.text

private theorem written_append (level : Level) (entries others : List Entry) :
    written level (entries ++ others) = written level entries ++ written level others := by
  simp only [written, shown, List.filter_append, List.map_append]

end Log

theorem Text.IsGraphic.plain {c : Char} (h : IsGraphic c) : IsPlain c :=
  .inr ⟨h.1, Nat.ne_of_lt h.2⟩

/-- A text consists of these lines, each of which is ended. -/
structure Text.HasLines (s : String) (lines : List String) : Prop where
  text : s = String.join (lines.map (· ++ "\n"))
  single : ∀ line ∈ lines, '\n' ∉ line.toList

namespace Log

/-- How lines about queries open. -/
def debugMark : String := "[DEBUG arkts_lsp_tester::client] "

/-- How warnings about queries open. -/
def warnMark : String := "[WARN  arkts_lsp_tester::client] "

def postLine (address : String) : String := debugMark ++ ("POST " ++ address)

def answerLine (kind : QueryKind) (status : Nat) : String :=
  debugMark ++ (kind.name ++ " answered " ++ toString status ++ " " ++ phrase status)

def failureLine (kind : QueryKind) (error : String) : String :=
  warnMark ++ (kind.name ++ " request failed: " ++ error)

/-- The lines of warning about a query, by its record. -/
def failureLines (kind : QueryKind) (r : Outcome Json) : List String :=
  if r.success then [] else r.error.toList.map (failureLine kind)

/-- The lines about how a query ended, by its record. -/
def endLines (kind : QueryKind) (r : Outcome Json) : List String :=
  if r.success then r.statusCode.toList.map (answerLine kind) else failureLines kind r

/-- A record has exactly one line on how its query ended. -/
def HasEnd (kind : QueryKind) (r : Outcome Json) : Prop :=
  ∃ line, endLines kind r = [line] ∧ '\n' ∉ line.toList

/-- The lines about a query at the level of debugging, by its record. -/
def debugLines (c : Config) (kind : QueryKind) (r : Outcome Json) : List String :=
  postLine (c.endpointOf kind) :: endLines kind r

/-- What is shown of these lines: an address may hold escapes and controls. -/
def debugTexts (c : Config) (kind : QueryKind) (r : Outcome Json) : List String :=
  visible (postLine (c.endpointOf kind) ++ "\n") :: (endLines kind r).map (· ++ "\n")

private theorem failureLines_subset (kind : QueryKind) (r : Outcome Json) :
    failureLines kind r ⊆ endLines kind r := by
  rw [endLines]
  split
  · next h =>
    rw [failureLines, if_pos h]
    exact List.nil_subset _
  · exact fun _ => id

private theorem only_isGraphic_name (kind : QueryKind) : Only IsGraphic kind.name := by
  cases kind <;> decide

private theorem only_isGraphic_phrase (status : Nat) : Only IsGraphic (phrase status) := by
  unfold phrase
  split <;> exact only_literal rfl (by decide)

private theorem only_isGraphic_debugMark : Only IsGraphic debugMark := only_literal rfl (by decide)

private theorem only_isGraphic_warnMark : Only IsGraphic warnMark := only_literal rfl (by decide)

private theorem debugMark_eq :
    "[" ++ Level.debug.label ++ " " ++ Client.logSource ++ "] " = debugMark :=
  rfl

private theorem warnMark_eq :
    "[" ++ Level.warn.label ++ " " ++ Client.logSource ++ "] " = warnMark :=
  rfl

/-- Printable notes on queries are written as they are. -/
private theorem text_of_graphic {level : Level} {mark message : String}
    (hmark : "[" ++ level.label ++ " " ++ Client.logSource ++ "] " = mark)
    (h : Only IsGraphic message) :
    Entry.text ⟨level, Client.logSource, message⟩ = mark ++ message ++ "\n" := by
  have hsource : Only IsPlain Client.logSource := only_literal rfl (by decide)
  rw [text_of_plain level hsource (h.mono fun _ => IsGraphic.plain) h.newline_not_mem, hmark]

end Log

namespace Client

open Log

private theorem only_isGraphic_answered (kind : QueryKind) (status : Nat) :
    Only IsGraphic (kind.name ++ " answered " ++ toString status ++ " " ++ phrase status) := by
  simp only [only_append]
  have hverb : Only IsGraphic " answered " := only_literal rfl (by decide)
  exact ⟨⟨⟨⟨only_isGraphic_name kind, hverb⟩, only_toString (by decide) status⟩, by decide⟩,
    only_isGraphic_phrase status⟩

private theorem only_isGraphic_failed (kind : QueryKind) {error : String}
    (h : Only IsGraphic error) :
    Only IsGraphic (kind.name ++ " request failed: " ++ error) := by
  simp only [only_append]
  exact ⟨⟨only_isGraphic_name kind, only_literal rfl (by decide)⟩, h⟩

private theorem text_sentEntry {address : String} (h : '\n' ∉ address.toList) :
    (sentEntry address).text = visible (postLine address ++ "\n") := by
  have hline : '\n' ∉ ("POST " ++ address).toList := by simpa using h
  rw [sentEntry, Entry.text, indent_of_single hline, debugMark_eq]
  rfl

private theorem text_endEntry_ok (kind : QueryKind) (status : Nat) (data : Json) :
    (endEntry kind (.ok (status, data))).text = answerLine kind status ++ "\n" :=
  text_of_graphic debugMark_eq (only_isGraphic_answered kind status)

private theorem text_endEntry_error (kind : QueryKind) {failure : Failure}
    (h : Only IsGraphic failure.message) :
    (endEntry kind (.error failure)).text = failureLine kind failure.message ++ "\n" :=
  text_of_graphic warnMark_eq (only_isGraphic_failed kind h)

private theorem only_endpointOf {P : Char → Prop} (hP : ∀ c, IsGraphic c → P c) {c : Config}
    (h : Only P c.baseUrl) (kind : QueryKind) : Only P (c.endpointOf kind) := by
  have hkind : Only IsGraphic kind.endpoint := by cases kind <;> decide
  refine only_append.mpr ⟨?_, hkind.mono hP⟩
  unfold Config.dropSlash
  split
  · exact only_ofList.mpr fun d hd => h d (List.dropLast_subset _ hd)
  · exact h

private theorem only_postLine {P : Char → Prop} (hP : ∀ c, IsGraphic c → P c) {c : Config}
    (h : Only P c.baseUrl) (kind : QueryKind) : Only P (postLine (c.endpointOf kind)) := by
  have hpost : Only IsGraphic "POST " := by decide
  exact only_append.mpr ⟨only_isGraphic_debugMark.mono hP,
    only_append.mpr ⟨hpost.mono hP, only_endpointOf hP h kind⟩⟩

/-- What a query notes goes with what it comes to. -/
private theorem ask_cases (c : Client) (q : Query) (script : Script) :
    (∃ status data, (c.ask q script).result = .succeeded data status ∧
      (c.ask q script).log =
        [sentEntry (c.config.endpointOf q.kind), endEntry q.kind (.ok (status, data))]) ∨
    ∃ failure, (c.ask q script).result = .failed failure.message failure.statusCode? ∧
      (c.ask q script).log =
        [sentEntry (c.config.endpointOf q.kind), endEntry q.kind (.error failure)] ∧
      Only IsGraphic failure.message := by
  rw [ask_eq]
  cases hread : read (c.play q script).result with
  | ok answer =>
    obtain ⟨status, data⟩ := answer
    exact .inl ⟨status, data, rfl, rfl⟩
  | error failure => exact .inr ⟨failure, rfl, rfl, only_isGraphic_ask hread⟩

theorem written_warn_ask (c : Client) (q : Query) (script : Script) :
    written .warn (c.ask q script).log =
      (failureLines q.kind (c.ask q script).result).map (· ++ "\n") := by
  obtain ⟨status, data, hresult, hlog⟩ | ⟨failure, hresult, hlog, hmessage⟩ := c.ask_cases q script
  · rw [hresult, hlog]
    rfl
  · rw [hresult, hlog]
    change [(endEntry q.kind (.error failure)).text] = _
    rw [text_endEntry_error q.kind hmessage]
    rfl

theorem written_debug_ask {c : Client} (h : '\n' ∉ c.config.baseUrl.toList) (q : Query)
    (script : Script) :
    written .debug (c.ask q script).log =
      debugTexts c.config q.kind (c.ask q script).result := by
  have haddress : '\n' ∉ (c.config.endpointOf q.kind).toList :=
    only_ne_iff.mp (only_endpointOf (fun _ => IsGraphic.ne_newline) (only_ne_iff.mpr h) q.kind)
  obtain ⟨status, data, hresult, hlog⟩ | ⟨failure, hresult, hlog, hmessage⟩ := c.ask_cases q script
  · rw [hresult, hlog]
    change [(sentEntry _).text, (endEntry q.kind (.ok (status, data))).text] = _
    rw [text_sentEntry haddress, text_endEntry_ok]
    rfl
  · rw [hresult, hlog]
    change [(sentEntry _).text, (endEntry q.kind (.error failure)).text] = _
    rw [text_sentEntry haddress, text_endEntry_error q.kind hmessage]
    rfl

theorem hasEnd_ask (c : Client) (q : Query) (script : Script) :
    HasEnd q.kind (c.ask q script).result := by
  obtain ⟨status, data, hresult, _⟩ | ⟨failure, hresult, _, hmessage⟩ := c.ask_cases q script
  · have hline := only_append.mpr ⟨only_isGraphic_debugMark, only_isGraphic_answered q.kind status⟩
    rw [hresult]
    exact ⟨answerLine q.kind status, rfl, hline.newline_not_mem⟩
  · have hline := only_append.mpr ⟨only_isGraphic_warnMark, only_isGraphic_failed q.kind hmessage⟩
    rw [hresult]
    exact ⟨failureLine q.kind failure.message, rfl, hline.newline_not_mem⟩

end Client

def TestKind.kinds : TestKind → List QueryKind
  | .single kind => [kind]
  | .all => QueryKind.all

private theorem TestKind.map_kind_queries (test : TestKind) (p : Position)
    (includeDeclaration : Bool) :
    (test.queries p includeDeclaration).map Query.kind = test.kinds := by
  cases test with
  | single kind => cases kind <;> rfl
  | all => rfl

namespace Client

open Log

variable (c : Client)

/-- If each query writes by its kind and record, so do queries in turn. -/
private theorem written_askAll {level : Level} (lines : QueryKind → Outcome Json → List String)
    (h : ∀ q script, written level (c.ask q script).log = lines q.kind (c.ask q script).result)
    (queries : List Query) (script : Script) :
    written level ((c.askAll queries script).flatMap Asked.log) =
      (List.zipWith lines (queries.map Query.kind)
        ((c.askAll queries script).map Asked.result)).flatten := by
  induction queries generalizing script with
  | nil => rfl
  | cons q rest ih =>
    simp only [askAll, List.flatMap_cons, List.map_cons, List.zipWith_cons_cons,
      List.flatten_cons, written_append, h, ih]

private theorem written_run {level : Level} (lines : QueryKind → Outcome Json → List String)
    (h : ∀ q script, written level (c.ask q script).log = lines q.kind (c.ask q script).result)
    (test : TestKind) (target : Target) (includeDeclaration : Bool) (script : Script) :
    written level (c.run test target includeDeclaration script).log =
      (List.zipWith lines test.kinds
        (c.run test target includeDeclaration script).result.records).flatten := by
  rw [run_log, run_records, ← test.map_kind_queries, written_askAll c lines h]

private theorem forall₂_askAll (P : QueryKind → Outcome Json → Prop)
    (h : ∀ q script, P q.kind (c.ask q script).result) (queries : List Query) (script : Script) :
    List.Forall₂ P (queries.map Query.kind) ((c.askAll queries script).map Asked.result) := by
  induction queries generalizing script with
  | nil => exact .nil
  | cons q rest ih => exact .cons (h q script) (ih (c.ask q script).left)

private theorem forall₂_run (P : QueryKind → Outcome Json → Prop)
    (h : ∀ q script, P q.kind (c.ask q script).result) (test : TestKind) (target : Target)
    (includeDeclaration : Bool) (script : Script) :
    List.Forall₂ P test.kinds
      (c.run test target includeDeclaration script).result.records := by
  rw [run_records, ← test.map_kind_queries]
  exact forall₂_askAll c P h _ script

end Client

private theorem Text.HasLines.of_zipWith {kinds : List QueryKind} {records : List (Outcome Json)}
    {lines : QueryKind → Outcome Json → List String} {s : String}
    (htext : s = String.join
      (List.zipWith (fun kind r => (lines kind r).map (· ++ "\n")) kinds records).flatten)
    (h : List.Forall₂ (fun kind r => ∀ line ∈ lines kind r, '\n' ∉ line.toList) kinds records) :
    HasLines s (List.zipWith lines kinds records).flatten where
  text := by rw [htext, List.map_flatten, List.map_zipWith]
  single := by
    clear htext
    induction h with
    | nil => simp
    | cons hline _ ih =>
      simp only [List.zipWith_cons_cons, List.flatten_cons, List.forall_mem_append]
      exact ⟨hline, ih⟩

theorem Text.HasLines.cons {s line : String} {lines : List String} (hline : '\n' ∉ line.toList)
    (h : HasLines s lines) : HasLines (line ++ "\n" ++ s) (line :: lines) where
  text := by rw [h.text, List.map_cons, String.join_cons]
  single := by
    rw [List.forall_mem_cons]
    exact ⟨hline, h.single⟩

namespace Program

open CommandLine Log

def World.loggingAt (w : World) (level : Level) : World := { w with logLevel := level }

/-- The line that opens the log of a run. -/
def openingLine (o : Options) : String := "[INFO  arkts_lsp_test] " ++ (openingEntry o).message

/-- The log of a run tells what its records tell: each has one line on how its query ended, and
failures have no other line at the level of warnings. The level bears on nothing but the log. -/
structure LogMirrors (w : World) (arguments : List String) (o : Options) (e : Execution) :
    Prop where
  printed : (query w { o with json := true }).stdout = e.toJson.pretty ++ "\n" ∧
    e.IsReadAs e.toJson
  ended : List.Forall₂ HasEnd o.test.kinds e.records
  warn : HasLines (run (w.loggingAt .warn) arguments).stderr
    (List.zipWith failureLines o.test.kinds e.records).flatten
  debug : '\n' ∉ o.url.toList →
    (run (w.loggingAt .debug) arguments).stderr =
      (openingEntry o).text ++
        String.join (List.zipWith (debugTexts o.config) o.test.kinds e.records).flatten
  debug_plain : '\n' ∉ o.url.toList → Only IsPlain o.url →
    HasLines (run (w.loggingAt .debug) arguments).stderr
      (openingLine o :: (List.zipWith (debugLines o.config) o.test.kinds e.records).flatten)
  outside : ∀ level,
    (run (w.loggingAt level) arguments).stdout = (run w arguments).stdout ∧
    (run (w.loggingAt level) arguments).exit = (run w arguments).exit ∧
    (run (w.loggingAt level) arguments).requests = (run w arguments).requests

private theorem query_stderr (w : World) (level : Level) (o : Options) :
    (query (w.loggingAt level) o).stderr =
      String.join (written level (openingEntry o :: (asked w o).log)) := rfl

private theorem written_warn_opening (o : Options) (entries : List Entry) :
    written .warn (openingEntry o :: entries) = written .warn entries := rfl

private theorem written_debug_opening (o : Options) (entries : List Entry) :
    written .debug (openingEntry o :: entries) = (openingEntry o).text :: written .debug entries :=
  rfl

private theorem only_opening {P : Char → Prop} (hP : ∀ c, IsGraphic c → P c) {o : Options}
    (h : Only P o.url) : Only P (openingEntry o).message := by
  have htitle : Only IsGraphic o.test.title := by
    cases o.test with
    | single kind => cases kind <;> decide
    | all => decide
  have hlimit : Only IsGraphic (limitText o.timeoutSecs) := by
    unfold limitText
    split
    · decide
    · simp only [only_append]
      exact ⟨⟨by decide, only_toString (by decide) _⟩, by decide⟩
  have hend : Only IsGraphic (" (" ++ (o.test.title ++ (", timeout " ++
      (limitText o.timeoutSecs ++ ")")))) := by
    simp only [only_append]
    exact ⟨by decide, htitle, by decide, hlimit, by decide⟩
  have hstart : Only IsGraphic "Querying " := by decide
  unfold openingEntry
  simp only [String.append_assoc]
  exact only_append.mpr ⟨hstart.mono hP, only_append.mpr ⟨h, hend.mono hP⟩⟩

private theorem text_openingEntry {o : Options} (hline : '\n' ∉ o.url.toList)
    (h : Only IsPlain o.url) :
    (openingEntry o).text = openingLine o ++ "\n" := by
  have hmark : "[" ++ Level.info.label ++ " " ++ logSource ++ "] " = "[INFO  arkts_lsp_test] " :=
    rfl
  have hsource : Only IsPlain logSource := by decide
  have hmessage := only_opening (fun _ => IsGraphic.plain) h
  have hsingle := only_opening (fun _ => IsGraphic.ne_newline) (only_ne_iff.mpr hline)
  have htext := text_of_plain .info hsource hmessage (only_ne_iff.mp hsingle)
  rw [hmark] at htext
  exact htext

theorem escape_not_mem_stderr (w : World) (o : Options) : '\x1b' ∉ (query w o).stderr.toList := by
  intro hmem
  simp only [query, String.toList_join, List.mem_flatMap, List.mem_map] at hmem
  obtain ⟨_, ⟨e, _, rfl⟩, hmem⟩ := hmem
  exact escape_not_mem_visible _ hmem

private theorem asked_loggingAt (w : World) (level : Level) (o : Options) :
    asked (w.loggingAt level) o = asked w o := rfl

theorem run_outside_log (w : World) (arguments : List String) (level : Level) :
    (run (w.loggingAt level) arguments).stdout = (run w arguments).stdout ∧
    (run (w.loggingAt level) arguments).exit = (run w arguments).exit ∧
    (run (w.loggingAt level) arguments).requests = (run w arguments).requests := by
  unfold run
  split
  · exact ⟨rfl, rfl, rfl⟩
  · exact ⟨rfl, rfl, rfl⟩
  · next o _ =>
    have hpath : (w.loggingAt level).pathExists = w.pathExists := rfl
    rw [hpath]
    split
    · simp only [query, asked_loggingAt]
      exact ⟨trivial, rfl, trivial⟩
    · exact ⟨rfl, rfl, rfl⟩

section

variable (w : World) (o : Options)

theorem written_asked {level : Level} (lines : QueryKind → Outcome Json → List String)
    (h : ∀ q script, written level (Client.ask ⟨o.config, w.network⟩ q script).log =
      lines q.kind (Client.ask ⟨o.config, w.network⟩ q script).result) :
    written level (asked w o).log =
      (List.zipWith lines o.test.kinds (asked w o).result.records).flatten :=
  Client.written_run ⟨o.config, w.network⟩ lines h o.test o.target o.includeDeclaration w.script

theorem hasEnd_asked : List.Forall₂ HasEnd o.test.kinds (asked w o).result.records :=
  Client.forall₂_run ⟨o.config, w.network⟩ HasEnd (Client.hasEnd_ask ⟨o.config, w.network⟩) o.test
    o.target o.includeDeclaration w.script

theorem hasLines_warn :
    HasLines (query (w.loggingAt .warn) o).stderr
      (List.zipWith failureLines o.test.kinds (asked w o).result.records).flatten := by
  apply HasLines.of_zipWith
  · rw [query_stderr, written_warn_opening,
      written_asked w o (fun kind r => (failureLines kind r).map (· ++ "\n"))
        (Client.written_warn_ask _)]
  · refine (hasEnd_asked w o).imp fun kind r ⟨end', hend, hsingle⟩ line hline => ?_
    have hmem := failureLines_subset kind r hline
    rw [hend, List.mem_singleton] at hmem
    rwa [hmem]

theorem stderr_debug (h : '\n' ∉ o.url.toList) :
    (query (w.loggingAt .debug) o).stderr =
      (openingEntry o).text ++ String.join
        (List.zipWith (debugTexts o.config) o.test.kinds (asked w o).result.records).flatten := by
  rw [query_stderr, written_debug_opening, String.join_cons,
    written_asked w o (debugTexts o.config) (Client.written_debug_ask h)]

/-- What is shown of plain lines is the lines. -/
private theorem debugTexts_of_plain (h : Only IsPlain o.url) (kind : QueryKind) (r : Outcome Json) :
    debugTexts o.config kind r = (debugLines o.config kind r).map (· ++ "\n") := by
  have hpost : Only IsPlain (postLine (o.config.endpointOf kind)) :=
    Client.only_postLine (fun _ => IsGraphic.plain) h kind
  rw [debugTexts, visible_of_plain (only_append.mpr ⟨hpost, by decide⟩)]
  rfl

theorem hasLines_debug (hline : '\n' ∉ o.url.toList) (h : Only IsPlain o.url) :
    HasLines (query (w.loggingAt .debug) o).stderr
      (openingLine o ::
        (List.zipWith (debugLines o.config) o.test.kinds (asked w o).result.records).flatten) := by
  have hurl : Only (· ≠ '\n') o.config.baseUrl := only_ne_iff.mpr hline
  rw [stderr_debug w o hline, text_openingEntry hline h]
  apply HasLines.cons
  · have hmark : Only IsGraphic "[INFO  arkts_lsp_test] " :=
      only_literal rfl (by decide)
    have hmessage := only_opening (fun _ => IsGraphic.ne_newline) hurl
    exact only_ne_iff.mp
      (only_append.mpr ⟨hmark.mono fun _ => IsGraphic.ne_newline, hmessage⟩)
  · apply HasLines.of_zipWith
    · have hshown := funext fun kind => funext fun r => debugTexts_of_plain o h kind r
      rw [hshown]
    · refine (hasEnd_asked w o).imp fun kind r ⟨line, hend, hnewline⟩ => ?_
      have hpost : '\n' ∉ (postLine (o.config.endpointOf kind)).toList :=
        only_ne_iff.mp (Client.only_postLine (fun _ => IsGraphic.ne_newline) hurl kind)
      rw [debugLines, hend]
      simp only [List.forall_mem_cons]
      exact ⟨hpost, hnewline, by simp⟩

end

end Program

open Program CommandLine Log

/-- The log of a run that reaches its queries mirrors the records that it prints. -/
theorem log_mirrors_records {w : World} {arguments : List String} {o : Options}
    (h : CommandLine.parse arguments = .ok (.run o))
    (hfile : w.pathExists o.target.file = true) :
    LogMirrors w arguments o (asked w o).result := by
  have hrun (level : Level) : run (w.loggingAt level) arguments = query (w.loggingAt level) o := by
    rw [run_eq h]
    exact if_pos hfile
  constructor
  · exact ⟨rfl, Execution.isReadAs_toJson _⟩
  · exact hasEnd_asked w o
  · rw [hrun]
    exact hasLines_warn w o
  · rw [hrun]
    exact stderr_debug w o
  · rw [hrun]
    exact hasLines_debug w o
  · exact run_outside_log w arguments

private def surveyed : Options :=
  ⟨.all, ⟨"/a.ets", 20, 28⟩, "http://localhost:3000/é/", false, 30, false, false⟩

private def surveyedArguments : List String :=
  ["--file=/a.ets", "--line=20", "--character=28", "--url=http://localhost:3000/é/"]

private def mixedWorld : World where
  pathExists _ := true
  server := ⟨3000, true⟩
  script := [.answer (.saying 200 "[]"), .close, .answer (.saying 503 "")]
  logLevel := .off

private theorem parse_surveyedArguments :
    CommandLine.parse surveyedArguments = .ok (.run surveyed) := by
  decide +kernel

/-- A survey whose first query succeeds; the connection of the second one breaks off, and the third
one is answered with an error status. -/
theorem survey_log_mirrors_records :
    CommandLine.parse surveyedArguments = .ok (.run surveyed) ∧
    mixedWorld.pathExists surveyed.target.file = true ∧
    '\n' ∉ surveyed.url.toList ∧ Only IsPlain surveyed.url ∧
    (asked mixedWorld surveyed).result.records.map (fun r => (r.success, r.statusCode)) =
      [(true, some 200), (false, none), (false, some 503)] ∧
    LogMirrors mixedWorld surveyedArguments surveyed (asked mixedWorld surveyed).result :=
  ⟨parse_surveyedArguments, rfl, by decide +kernel, by decide +kernel, by decide +kernel,
    log_mirrors_records parse_surveyedArguments rfl⟩

private def boldArguments : List String :=
  ["--file=/a.ets", "--line=20", "--character=28", "--test=definition",
    "--url=http://127.0.0.1:3000/\x1b[1mred"]

private def bold : Options :=
  ⟨.single .definition, ⟨"/a.ets", 20, 28⟩, "http://127.0.0.1:3000/\x1b[1mred", false, 30, false,
    false⟩

private def boldWorld : World where
  pathExists _ := true
  server := ⟨3000, true⟩
  script := [.answer (.saying 200 "[]")]
  logLevel := .debug

/-- An escape in a base URL is not shown, and the address is then not in the log. -/
theorem escaped_address_not_logged :
    CommandLine.parse boldArguments = .ok (.run bold) ∧
    boldWorld.pathExists bold.target.file = true ∧ '\n' ∉ bold.url.toList ∧
    ¬(postLine (bold.config.endpointOf .definition)).toList <:+:
      (run boldWorld boldArguments).stderr.toList := by
  have hparse : CommandLine.parse boldArguments = .ok (.run bold) := by decide +kernel
  have haddress : '\x1b' ∈ (postLine (bold.config.endpointOf .definition)).toList := by
    decide +kernel
  refine ⟨hparse, rfl, by decide +kernel, fun hpart => ?_⟩
  have hrun : run boldWorld boldArguments = query boldWorld bold := by
    rw [run_eq hparse]
    exact if_pos rfl
  rw [hrun] at hpart
  exact escape_not_mem_stderr boldWorld bold (hpart.subset haddress)

end LspProbe
