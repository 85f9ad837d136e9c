import LspProbe.Client.Basic
import LspProbe.Proofs.Exchange

/-!
# Outcomes and the replies behind them

The last reply of a query decides its outcome. An error status fails with that status, a whole
body that is JSON succeeds with any other status, and everything else fails without a status. So
an outcome is either a success with data or a failure with an error, and reports never fall back
on their words for anything else.
-/

namespace LspProbe

open Http

/-- The body that an answer comes with. -/
def Http.Answer.content (a : Answer) : List UInt8 := if isBodiless a.status then [] else a.body

def Http.Answer.isWhole (a : Answer) : Bool := isBodiless a.status || a.missing = 0

theorem Http.Answer.received_eq (a : Answer) (url : String) :
    a.received url = ⟨a.status, a.knownReason, url, a.content, a.isWhole⟩ := by
  unfold received content isWhole
  cases isBodiless a.status <;> simp

theorem Http.Failure.isError_iff (status : Nat) :
    isError status = true ↔ 400 ≤ status ∧ status ≤ 599 := by
  simp only [isError, Bool.and_eq_true, decide_eq_true_eq]
  omega

theorem Http.Failure.isError_of_redirects {status : Nat} (h : redirects status = true) :
    isError status = false := by
  simp only [redirects, List.contains_iff_mem, List.mem_cons, List.not_mem_nil, or_false] at h
  rcases h with rfl | rfl | rfl | rfl | rfl <;> rfl

private theorem append_ne_empty {s : String} (t : String) (h : s ≠ "") : s ++ t ≠ "" := by
  intro he
  exact h (String.append_eq_empty_iff.mp he).1

private theorem building_ne_empty (url cause : String) : Failure.building url cause ≠ "" :=
  append_ne_empty _ (append_ne_empty _ (append_ne_empty _ (by decide)))

private theorem sending_ne_empty (url cause : String) : Failure.sending url cause ≠ "" :=
  append_ne_empty _ (append_ne_empty _ (append_ne_empty _ (by decide)))

private theorem decoding_ne_empty (cause : String) : Failure.decoding cause ≠ "" :=
  append_ne_empty _ (by decide)

theorem Http.Failure.message_ne_empty (failure : Failure) : failure.message ≠ "" := by
  cases failure with
  | badUrl flaw => exact append_ne_empty _ (by decide)
  | badScheme url => exact building_ne_empty _ _
  | noAddress url => exact building_ne_empty _ _
  | badName url => exact sending_ne_empty _ _
  | barred url obstacle => exact sending_ne_empty _ _
  | timedOut url => exact sending_ne_empty _ _
  | closed url => exact sending_ne_empty _ _
  | garbled url => exact sending_ne_empty _ _
  | badHead url flaw => cases flaw <;> exact sending_ne_empty _ _
  | tooManyRedirects url => exact append_ne_empty _ (append_ne_empty _ (by decide))
  | errorStatus status reason url =>
    iterate 8 apply append_ne_empty
    decide
  | cutShort => exact decoding_ne_empty _
  | badBody fault body => exact decoding_ne_empty _

/-- What becomes of a query, by the last reply it took. -/
inductive Settled (last? : Option Reply) : Outcome Json → Prop
  | data {a : Answer} {data : Json} (hlast : last? = some (.answer a))
      (hstatus : Failure.isError a.status = false) (hwhole : a.isWhole = true)
      (hbody : Json.parse a.content = .ok data) : Settled last? (.succeeded data a.status)
  | status {a : Answer} {error : String} (hlast : last? = some (.answer a))
      (hhead : a.flaw? = none) (hstatus : Failure.isError a.status = true) (herror : error ≠ "") :
      Settled last? (.failed error (some a.status))
  | fault {error : String} (herror : error ≠ "")
      (hlast : ∀ a, last? = some (.answer a) → a.flaw? = none →
        Failure.isError a.status = false) :
      Settled last? (.failed error none)

namespace Client

theorem dataOf_received (a : Answer) (url : String) :
    dataOf (a.received url) =
      if Failure.isError a.status then .error (.errorStatus a.status a.knownReason url)
      else if a.isWhole then
        match Json.parse a.content with
        | .ok data => .ok data
        | .error fault => .error (.badBody fault a.content)
      else .error .cutShort := by
  rw [Answer.received_eq]
  rfl

theorem read_received (a : Answer) (url : String) :
    read (.ok (a.received url)) = (dataOf (a.received url)).map fun data => (a.status, data) := by
  change (dataOf (a.received url) >>= fun data => .ok ((a.received url).status, data)) = _
  rw [Answer.received_eq]
  cases dataOf ⟨a.status, a.knownReason, url, a.content, a.isWhole⟩ <;> rfl

private theorem settled_received {last? : Option Reply} {a : Answer} (url : String)
    (hlast : last? = some (.answer a)) (hhead : a.flaw? = none) :
    Settled last? (outcomeOf (read (.ok (a.received url)))) := by
  have hother (failure : Failure) (hcode : failure.statusCode? = none)
      (hs : Failure.isError a.status = false) :
      Settled last? (outcomeOf (.error failure)) := by
    rw [outcomeOf, hcode]
    refine .fault failure.message_ne_empty fun b hb _ => ?_
    rw [hlast] at hb
    cases hb
    exact hs
  rw [read_received, dataOf_received]
  by_cases hs : Failure.isError a.status = true
  · rw [if_pos hs]
    exact .status hlast hhead hs (Failure.message_ne_empty _)
  · have hs' : Failure.isError a.status = false := by simpa using hs
    rw [if_neg hs]
    by_cases hw : a.isWhole = true
    · rw [if_pos hw]
      cases hp : Json.parse a.content with
      | ok data => exact .data hlast hs' hw hp
      | error fault => exact hother _ rfl hs'
    · rw [if_neg hw]
      exact hother _ rfl hs'

def play (c : Client) (q : Query) (script : Script) : Play (Except Failure Received) :=
  exchange c.network (c.config.endpointOf q.kind) q.body script

theorem ask_eq (c : Client) (q : Query) (script : Script) :
    c.ask q script =
      ⟨outcomeOf (read (c.play q script).result), (c.play q script).requests,
        [sentEntry (c.config.endpointOf q.kind), endEntry q.kind (read (c.play q script).result)],
        (c.play q script).left⟩ := by
  simp only [ask, play]

theorem ask_result (c : Client) (q : Query) (script : Script) :
    (c.ask q script).result = outcomeOf (read (c.play q script).result) := by
  rw [ask_eq]

theorem ask_requests (c : Client) (q : Query) (script : Script) :
    (c.ask q script).requests = (c.play q script).requests := by
  rw [ask_eq]

theorem ask_left (c : Client) (q : Query) (script : Script) :
    (c.ask q script).left = script.drop (c.ask q script).requests.length := by
  simp only [ask]
  exact exchange_left _ _ _ _

theorem ask_settled (c : Client) (q : Query) (script : Script) :
    Settled (script.last? (c.ask q script).requests.length) (c.ask q script).result := by
  have hends := exchange_ends c.network (c.config.endpointOf q.kind) q.body script
  rw [ask_requests, ask_result, play]
  generalize exchange c.network (c.config.endpointOf q.kind) q.body script = play at hends ⊢
  generalize play.result = result at hends ⊢
  cases hends with
  | answered a url hlast hhead => exact settled_received url hlast hhead
  | broken failure hcode hlast =>
    change Settled _ (.failed failure.message failure.statusCode?)
    rw [hcode]
    exact .fault failure.message_ne_empty fun a ha hhead =>
      Failure.isError_of_redirects (hlast a ha hhead)

end Client

/-- An outcome tells what the replies to a query came to: data or an error but never both, the
data and the status of the last reply in full, and of other replies the error statuses only. A
reply whose head cannot be read has no status. -/
structure Accounts {α : Type} (view : Json → α) (script : Script) (asked : Asked (Outcome α)) :
    Prop where
  left : asked.left = script.drop asked.requests.length
  success_iff_data : asked.result.success = true ↔ asked.result.data.isSome = true
  success_iff_error : asked.result.success = true ↔ asked.result.error = none
  of_success : asked.result.success = true → ∃ a data,
    script.last? asked.requests.length = some (.answer a) ∧
    asked.result.statusCode = some a.status ∧ ¬(400 ≤ a.status ∧ a.status ≤ 599) ∧
    a.missing = 0 ∧ Json.parse a.body = .ok data ∧ asked.result.data = some (view data)
  of_failure : asked.result.success = false →
    (∃ error, asked.result.error = some error ∧ error ≠ "") ∧ asked.result.data = none ∧
    ∀ status, asked.result.statusCode = some status ↔
      (400 ≤ status ∧ status ≤ 599) ∧
      ∃ a, script.last? asked.requests.length = some (.answer a) ∧ a.flaw? = none ∧
        a.status = status

private theorem parse_nil_error : ∃ fault, Json.parse [] = .error fault := ⟨_, rfl⟩

/-- A body that is JSON was sent as it is and came whole. -/
private theorem Http.Answer.content_of_parse {a : Answer} {data : Json}
    (hwhole : a.isWhole = true) (hbody : Json.parse a.content = .ok data) :
    a.missing = 0 ∧ Json.parse a.body = .ok data := by
  unfold content at hbody
  split at hbody
  · obtain ⟨fault, hnil⟩ := parse_nil_error
    rw [hnil] at hbody
    cases hbody
  · rename_i hs
    simp only [isWhole, hs, Bool.false_or, decide_eq_true_eq] at hwhole
    exact ⟨hwhole, hbody⟩

private theorem Settled.accounts {α : Type} (view : Json → α) {script : Script}
    {asked : Asked (Outcome Json)} (hleft : asked.left = script.drop asked.requests.length)
    (h : Settled (script.last? asked.requests.length) asked.result) :
    Accounts view script (asked.map (.map view)) := by
  obtain ⟨result, requests, log, left⟩ := asked
  cases h with
  | @data a data hlast hstatus hwhole hbody =>
    have hs : ¬(400 ≤ a.status ∧ a.status ≤ 599) := by
      rw [← Failure.isError_iff, hstatus]
      decide
    obtain ⟨hmissing, hparse⟩ := Answer.content_of_parse hwhole hbody
    exact
      { left := hleft
        success_iff_data := iff_of_true rfl rfl
        success_iff_error := iff_of_true rfl rfl
        of_success := fun _ => ⟨a, data, hlast, rfl, hs, hmissing, hparse, rfl⟩
        of_failure := fun h => nomatch h }
  | @status a error hlast hhead hstatus herror =>
    have hs := (Failure.isError_iff a.status).mp hstatus
    refine
      { left := hleft
        success_iff_data := iff_of_false nofun nofun
        success_iff_error := iff_of_false nofun nofun
        of_success := nofun
        of_failure := fun _ => ⟨⟨error, rfl, herror⟩, rfl, fun status => ⟨?_, ?_⟩⟩ }
    · intro hcode
      cases hcode
      exact ⟨hs, a, hlast, hhead, rfl⟩
    · rintro ⟨_, b, hb, _, rfl⟩
      cases hlast.symm.trans hb
      rfl
  | @fault error herror hlast =>
    refine
      { left := hleft
        success_iff_data := iff_of_false nofun nofun
        success_iff_error := iff_of_false nofun nofun
        of_success := nofun
        of_failure := fun _ => ⟨⟨error, rfl, herror⟩, rfl, fun status => ⟨nofun, ?_⟩⟩ }
    rintro ⟨hs, b, hb, hhead, rfl⟩
    rw [← Failure.isError_iff, hlast b hb hhead] at hs
    cases hs

theorem Client.ask_accounts {α : Type} (view : Json → α) (c : Client) (q : Query)
    (script : Script) : Accounts view script ((c.ask q script).map (.map view)) :=
  (c.ask_settled q script).accounts view (c.ask_left q script)

/-- An outcome is shown by its own fields: a success by its status and data, a failure by its
error. -/
def ShownInFull {α : Type} (kind : QueryKind) (body : α → List String) (o : Outcome α) : Prop :=
  (∃ data status, o.success = true ∧ o.data = some data ∧ o.statusCode = some status ∧
    Report.outcomeLines kind body o =
      (kind.name ++ " succeeded (status " ++ toString status ++ ")") :: body data) ∨
  ∃ error, o.success = false ∧ o.error = some error ∧ error ≠ "" ∧
    Report.outcomeLines kind body o = [kind.name ++ " failed: " ++ error]

def Execution.ShownInFull : Execution → Prop
  | .single kind (.locations o) => LspProbe.ShownInFull kind (Report.locationsBody kind) o
  | .single _ (.signature o) => LspProbe.ShownInFull .signature Report.signaturesBody o
  | .all survey =>
    LspProbe.ShownInFull .definition (Report.locationsBody .definition) survey.definition ∧
    LspProbe.ShownInFull .references (Report.locationsBody .references) survey.references ∧
    LspProbe.ShownInFull .signature Report.signaturesBody survey.signature

theorem Accounts.shown {α : Type} {view : Json → α} {script : Script}
    {asked : Asked (Outcome α)} (h : Accounts view script asked) (kind : QueryKind)
    (body : α → List String) : ShownInFull kind body asked.result := by
  cases hs : asked.result.success with
  | true =>
    obtain ⟨a, data, _, hcode, _, _, _, hdata⟩ := h.of_success hs
    refine .inl ⟨view data, a.status, hs, hdata, hcode, ?_⟩
    simp only [Report.outcomeLines, Report.statusLine, Report.shownData, hs, hcode, hdata, if_true]
  | false =>
    obtain ⟨⟨error, herror, hne⟩, _, _⟩ := h.of_failure hs
    refine .inr ⟨error, hs, herror, hne, ?_⟩
    simp [Report.outcomeLines, Report.statusLine, Report.shownData, hs, herror]

theorem Client.run_shownInFull (c : Client) (test : TestKind) (target : Target)
    (includeDeclaration : Bool) (script : Script) :
    (c.run test target includeDeclaration script).result.ShownInFull := by
  have hlocations (q : Query) (script : Script) (kind : QueryKind) :=
    (c.ask_accounts Locations.mk q script).shown kind (Report.locationsBody kind)
  have hsignature (q : Query) (script : Script) :=
    (c.ask_accounts SignatureReply.mk q script).shown .signature Report.signaturesBody
  cases test with
  | single kind =>
    cases kind with
    | definition => exact hlocations _ _ _
    | references => exact hlocations _ _ _
    | signature => exact hsignature _ _
  | all => exact ⟨hlocations _ _ _, hlocations _ _ _, hsignature _ _⟩

/-- Outcomes account for the replies to their queries, and reports of a run show them in full. -/
theorem outcome_accounts_for_replies (c : Client) (script : Script) (p : Position)
    (includeDeclaration : Bool) :
    Accounts Locations.mk script (c.findDefinition p script) ∧
    Accounts Locations.mk script (c.findReferences p includeDeclaration script) ∧
    Accounts SignatureReply.mk script (c.signatureHelp p script) ∧
    ∀ test target, (c.run test target includeDeclaration script).result.ShownInFull :=
  ⟨c.ask_accounts _ _ _, c.ask_accounts _ _ _, c.ask_accounts _ _ _,
    fun test target => c.run_shownInFull test target includeDeclaration script⟩

/-- The exchange of a query ends with an answer: it is the last reply that the query took, it came
whole, and the client kept it rather than follow it. -/
structure Client.EndsWith (c : Client) (q : Query) (script : Script) (a : Answer) : Prop where
  last : script.last? (c.play q script).requests.length = some (.answer a)
  whole : a.isWhole = true
  kept : (c.play q script).result.isOk = true

/-- What a final answer makes of an outcome. Its status is reported as a failure if it is an error
of the client or the server, and for no other status; the body decides about all the others. -/
structure DecidedBy {α : Type} (a : Answer) (o : Outcome α) : Prop where
  failure_iff : o.success = false ∧ o.statusCode = some a.status ↔
    400 ≤ a.status ∧ a.status ≤ 599
  success_iff : o.success = true ↔
    ¬(400 ≤ a.status ∧ a.status ≤ 599) ∧ ∃ data, Json.parse a.content = .ok data
  statusCode : o.statusCode =
    if o.success = true ∨ 400 ≤ a.status ∧ a.status ≤ 599 then some a.status else none

theorem DecidedBy.map {α β : Type} {a : Answer} {o : Outcome α} (h : DecidedBy a o) (f : α → β) :
    DecidedBy a (o.map f) := ⟨h.failure_iff, h.success_iff, h.statusCode⟩

private theorem Client.decidedBy_received (a : Answer) (url : String) (hwhole : a.isWhole = true) :
    DecidedBy a (outcomeOf (read (.ok (a.received url)))) := by
  rw [read_received, dataOf_received]
  by_cases hs : Failure.isError a.status = true
  · have hrange := (Failure.isError_iff a.status).mp hs
    rw [if_pos hs]
    exact
      { failure_iff := iff_of_true ⟨rfl, rfl⟩ hrange
        success_iff := iff_of_false nofun fun h => h.1 hrange
        statusCode := (if_pos (.inr hrange)).symm }
  · have hrange : ¬(400 ≤ a.status ∧ a.status ≤ 599) := fun h =>
      hs ((Failure.isError_iff a.status).mpr h)
    rw [if_neg hs, if_pos hwhole]
    cases hp : Json.parse a.content with
    | ok data =>
      exact
        { failure_iff := iff_of_false nofun hrange
          success_iff := iff_of_true rfl ⟨hrange, data, hp⟩
          statusCode := (if_pos (.inl rfl)).symm }
    | error fault =>
      have hnone : ¬∃ data, Json.parse a.content = .ok data := by
        rintro ⟨data, hdata⟩
        cases hp.symm.trans hdata
      exact
        { failure_iff := iff_of_false nofun hrange
          success_iff := iff_of_false nofun fun h => hnone h.2
          statusCode := (if_neg (not_or.mpr ⟨nofun, hrange⟩)).symm }

theorem Client.EndsWith.decides {c : Client} {q : Query} {script : Script} {a : Answer}
    (h : c.EndsWith q script a) : DecidedBy a (c.ask q script).result := by
  obtain ⟨hlast, hwhole, hkept⟩ := h
  have hends := exchange_ends c.network (c.config.endpointOf q.kind) q.body script
  rw [ask_result]
  rw [play] at hlast hkept ⊢
  generalize exchange c.network (c.config.endpointOf q.kind) q.body script = play at *
  obtain ⟨result, requests, left⟩ := play
  cases hends with
  | answered b url hb _ =>
    cases hlast.symm.trans hb
    exact decidedBy_received a url hwhole
  | broken failure _ _ => cases hkept

/-- A final reply fails a query and leaves its status exactly if that status is in 400..599. -/
theorem outcome_decidedBy_final_reply (c : Client) (p : Position) (includeDeclaration : Bool)
    (script : Script) (a : Answer) :
    (c.EndsWith (.definition p) script a → DecidedBy a (c.findDefinition p script).result) ∧
    (c.EndsWith (.references p includeDeclaration) script a →
      DecidedBy a (c.findReferences p includeDeclaration script).result) ∧
    (c.EndsWith (.signature p) script a → DecidedBy a (c.signatureHelp p script).result) :=
  ⟨fun h => h.decides.map _, fun h => h.decides.map _, fun h => h.decides.map _⟩

/-- A client whose base URL is the origin of its server. -/
def Client.facing (server : Server) : Client :=
  ⟨⟨server.origin, Config.timeoutOfSecs Config.defaultTimeoutSecs⟩, server⟩

def Http.Answer.saying (status : Nat) (text : String) : Answer :=
  ⟨status, "", none, none, Utf8.encode text, 0⟩

def Http.Answer.pointing (status : Nat) (location : String) : Answer :=
  ⟨status, "", some location, none, [], 0⟩

private theorem endsWith_status600 :
    (Client.facing ⟨3000, true⟩).EndsWith (.definition (.ofFile "/a.ets" 20 28))
      [.answer (.pointing 307 "/moved"), .answer (.saying 600 "<html>")] (.saying 600 "<html>") :=
  ⟨by decide +kernel, by decide +kernel, by decide +kernel⟩

/-- A redirect leads to a reply that is neither a success, nor an error, nor JSON. -/
theorem outcome_decidedBy_status600 :
    (Client.facing ⟨3000, true⟩).EndsWith (.definition (.ofFile "/a.ets" 20 28))
      [.answer (.pointing 307 "/moved"), .answer (.saying 600 "<html>")] (.saying 600 "<html>") ∧
    DecidedBy (.saying 600 "<html>")
      ((Client.facing ⟨3000, true⟩).findDefinition (.ofFile "/a.ets" 20 28)
        [.answer (.pointing 307 "/moved"), .answer (.saying 600 "<html>")]).result :=
  ⟨endsWith_status600, (outcome_decidedBy_final_reply _ _ false _ _).1 endsWith_status600⟩

/-- A reply whose status is neither a success nor an error makes a success with its body. -/
theorem success_with_status600 :
    (Client.facing ⟨3000, true⟩).EndsWith (.definition (.ofFile "/a.ets" 20 28))
      [.answer (.saying 600 "[]")] (.saying 600 "[]") ∧
    ((Client.facing ⟨3000, true⟩).findDefinition (.ofFile "/a.ets" 20 28)
      [.answer (.saying 600 "[]")]).result.success = true ∧
    ((Client.facing ⟨3000, true⟩).findDefinition (.ofFile "/a.ets" 20 28)
      [.answer (.saying 600 "[]")]).result.statusCode = some 600 :=
  ⟨⟨by decide +kernel, by decide +kernel, by decide +kernel⟩, by decide +kernel, by decide +kernel⟩

end LspProbe
