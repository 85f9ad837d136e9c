import LspProbe.Proofs.Classification
import LspProbe.Proofs.Records
import LspProbe.Proofs.Spelling
import Mathlib.Data.List.Forall2

/-!
# What a run does not depend on

Where a query points to is in the bodies of its posts and nowhere else: two runs of a test on the
same replies send requests that agree in all the rest, and come to the same. How a run is printed
and judged has no part in what it asks.
-/

namespace LspProbe

namespace Http

/-- Requests that differ in the body of a post at most. -/
structure Request.Alike (r s : Request) : Prop where
  method : r.method = s.method
  target : r.target = s.target
  contentType : r.contentType = s.contentType
  userAgent : r.userAgent = s.userAgent
  body : r.method ≠ .post → r.body = s.body

/-- Plays that differ in the bodies of posts at most. -/
structure Play.Alike {α : Type} (p q : Play α) : Prop where
  result : p.result = q.result
  requests : List.Forall₂ Request.Alike p.requests q.requests
  left : p.left = q.left

theorem Request.Alike.redirected {r s : Request} (h : r.Alike s) (status : Nat) (next : Url) :
    (r.redirected status next).Alike (s.redirected status next) := by
  unfold Request.redirected
  split
  · exact ⟨h.method, rfl, h.contentType, h.userAgent, h.body⟩
  · exact ⟨rfl, rfl, rfl, h.userAgent, fun _ => rfl⟩

theorem chase_alike {network : Network} {start : String} (n : Nat) (request other : Request)
    (url : Url) (script : Script) (h : request.Alike other) :
    (chase network start n request url script).Alike
      (chase network start n other url script) := by
  -- Barrier and turn depend on the URL and the reply, never on the request.
  induction n, request, url, script using chase_induct network start generalizing other with
  | barred n request url script failure hb hc =>
    rw [hc, chase_eq, hb]
    exact ⟨rfl, .nil, rfl⟩
  | stop n request url script result hb ht hc =>
    rw [hc, chase_eq, hb, ht]
    exact ⟨rfl, .cons h .nil, rfl⟩
  | go n request url script status next hb ht hc ih =>
    obtain ⟨hresult, hrequests, hleft⟩ := ih _ (h.redirected status next)
    rw [hc, chase_eq (n + 1) other, hb, ht]
    exact ⟨hresult, .cons h hrequests, hleft⟩

theorem exchange_alike (network : Network) (address body other : String) (script : Script) :
    (exchange network address body script).Alike (exchange network address other script) := by
  rcases exchange_cases network address with ⟨failure, _, h⟩ | ⟨url, _, h⟩
  · rw [h, h]
    exact ⟨rfl, .nil, rfl⟩
  · rw [h, h]
    exact chase_alike _ _ _ _ _ ⟨rfl, rfl, rfl, rfl, fun hpost => absurd rfl hpost⟩

end Http

open Http

attribute [local irreducible] exchange

/-- Two queries, or runs of several, that differ in the bodies of posts at most. -/
structure Asked.Alike {α : Type} (a b : Asked α) : Prop where
  result : a.result = b.result
  requests : List.Forall₂ Request.Alike a.requests b.requests
  log : a.log = b.log
  left : a.left = b.left

theorem Asked.Alike.map {α β : Type} {a b : Asked α} (h : a.Alike b) (f : α → β) :
    (a.map f).Alike (b.map f) :=
  ⟨congrArg f h.result, h.requests, h.log, h.left⟩

namespace Client

variable (c : Client)

theorem ask_alike (q other : Query) (h : other.kind = q.kind) (script : Script) :
    (c.ask q script).Alike (c.ask other script) := by
  have hplay : (c.play q script).Alike (c.play other script) := by
    rw [play, play, h]
    exact exchange_alike _ _ _ _ _
  obtain ⟨hresult, hrequests, hleft⟩ := hplay
  rw [ask_eq, ask_eq, hresult, h]
  exact ⟨rfl, hrequests, rfl, hleft⟩

theorem findDefinition_alike (p other : Position) (script : Script) :
    (c.findDefinition p script).Alike (c.findDefinition other script) :=
  (c.ask_alike (.definition p) (.definition other) rfl script).map _

theorem findReferences_alike (p other : Position) (b b' : Bool) (script : Script) :
    (c.findReferences p b script).Alike (c.findReferences other b' script) :=
  (c.ask_alike (.references p b) (.references other b') rfl script).map _

theorem signatureHelp_alike (p other : Position) (script : Script) :
    (c.signatureHelp p script).Alike (c.signatureHelp other script) :=
  (c.ask_alike (.signature p) (.signature other) rfl script).map _

theorem survey_alike (p other : Position) (script : Script) :
    (c.survey p script).Alike (c.survey other script) := by
  have hd := c.findDefinition_alike p other script
  have hr := c.findReferences_alike p other true true (c.findDefinition p script).left
  have hg := c.signatureHelp_alike p other
    (c.findReferences p true (c.findDefinition p script).left).left
  rw [survey, survey]
  rw [hd.left] at hr hg ⊢
  rw [hr.left] at hg ⊢
  refine ⟨?_, ?_, ?_, hg.left⟩
  · simp only [hd.result, hr.result, hg.result]
  · exact List.rel_append (List.rel_append hd.requests hr.requests) hg.requests
  · simp only [hd.log, hr.log, hg.log]

theorem run_alike (test : TestKind) (target other : Target) (b b' : Bool) (script : Script) :
    (c.run test target b script).Alike (c.run test other b' script) := by
  unfold run
  cases test with
  | single kind =>
    cases kind with
    | definition => exact (c.findDefinition_alike _ _ script).map _
    | references => exact (c.findReferences_alike _ _ b b' script).map _
    | signature => exact (c.signatureHelp_alike _ _ script).map _
  | all => exact (c.survey_alike _ _ script).map _

/-- Only a references query heeds whether declarations are to be included. -/
theorem run_of_ne_references {test : TestKind} (h : test ≠ .single .references) (target : Target)
    (b b' : Bool) (script : Script) :
    c.run test target b script = c.run test target b' script ∧
      (c.run test target b script).result.text target b =
        (c.run test target b' script).result.text target b' := by
  cases test with
  | single kind =>
    cases kind with
    | definition => exact ⟨rfl, rfl⟩
    | references => exact absurd rfl h
    | signature => exact ⟨rfl, rfl⟩
  | all => exact ⟨rfl, rfl⟩

end Client

namespace CommandLine

/-- Options without those that say how to print a run and how to judge it. -/
def Options.bare (o : Options) : Options := { o with json := false, strict := false }

def Given.bare (g : Given) : Given := { g with json := false, strict := false }

/-- Whether an argument says how to print a run or how to judge it. -/
def isOutward (argument : String) : Bool := [Switch.json.name, Switch.strict.name].contains argument

def Item.isOutward (item : Item) : Bool := [Item.switch .json, .switch .strict].contains item

private theorem Given.set_bare (g : Given) (setting : Setting) (value : String) :
    g.bare.set setting value = (g.set setting value).map Given.bare := by
  have hhas : g.bare.has setting = g.has setting := by cases setting <;> rfl
  have hassign : g.bare.assign setting value = (g.assign setting value).map Given.bare := by
    cases setting with
    | test => simp only [assign]; cases testOf value <;> rfl
    | file => rfl
    | line => simp only [assign]; cases numberOf .line value (coordinate value) <;> rfl
    | character => simp only [assign]; cases numberOf .character value (coordinate value) <;> rfl
    | url => rfl
    | timeoutSecs => simp only [assign]; cases numberOf .timeoutSecs value (unsigned value) <;> rfl
  rw [set, set, hhas, hassign]
  split <;> rfl

private theorem Given.take_bare {g g' : Given} {item : Item} (h : g.take item = .ok g')
    (hitem : item.isOutward = false) : g.bare.take item = .ok g'.bare := by
  cases item with
  | setting setting value =>
    have hset := g.set_bare setting value
    rwa [show g.set setting value = _ from h] at hset
  | switch switch =>
    obtain ⟨hoff, rfl⟩ := turnOn_eq_ok_iff.mp h
    cases switch with
    | includeDeclaration => exact turnOn_eq_ok_iff.mpr ⟨hoff, rfl⟩
    | json => cases hitem
    | strict => cases hitem

private theorem Given.bare_eq_of_take {g g' : Given} {item : Item} (h : g.take item = .ok g')
    (hitem : item.isOutward = true) : g'.bare = g.bare := by
  cases item with
  | setting setting value => cases hitem
  | switch switch =>
    obtain ⟨_, rfl⟩ := turnOn_eq_ok_iff.mp h
    cases switch with
    | includeDeclaration => cases hitem
    | json => rfl
    | strict => rfl

/-- Leaving out what bears on the output leaves the rest as it was. -/
private theorem foldlM_take_bare {items : List Item} {g g' : Given}
    (h : items.foldlM Given.take g = .ok g') :
    (items.filter (!·.isOutward)).foldlM Given.take g.bare = .ok g'.bare := by
  induction items generalizing g with
  | nil =>
    cases h
    rfl
  | cons item rest ih =>
    rw [List.foldlM_cons] at h
    obtain ⟨next, htake, hrest⟩ := bind_eq_ok_iff.mp h
    cases hitem : item.isOutward with
    | true =>
      rw [List.filter_cons_of_neg (by simp [hitem]), ← Given.bare_eq_of_take htake hitem]
      exact ih hrest
    | false =>
      rw [List.filter_cons_of_pos (by simp [hitem]), List.foldlM_cons,
        Given.take_bare htake hitem, ok_bind]
      exact ih hrest

private theorem Given.complete_bare {g : Given} {o : Options} (h : g.complete = .ok o) :
    g.bare.complete = .ok o.bare := by
  unfold complete at h
  split at h
  · next file line character hfile hline hcharacter =>
    cases h
    simp only [complete, bare, hfile, hline, hcharacter]
    rfl
  · cases h

private theorem isOutward_eq_false {s : String} (h : ∀ name, Argument.ofText s ≠ .long name none) :
    isOutward s = false := by
  apply Bool.eq_false_iff.mpr
  intro hs
  simp only [isOutward, List.contains_iff_mem, List.mem_cons, List.not_mem_nil, or_false] at hs
  rcases hs with rfl | rfl
  · exact h _ (ofText_switch .json)
  · exact h _ (ofText_switch .strict)

theorem Written.filter {items : List Item} {arguments : List String}
    (h : Written items arguments) :
    Written (items.filter (!·.isOutward)) (arguments.filter (!isOutward ·)) := by
  have hitem (setting : Setting) (value : String) :
      (Item.setting setting value).isOutward = false := rfl
  induction h with
  | nothing => exact .nothing
  | separator => exact .separator
  | joined setting value h ih =>
    have hkeep : isOutward (setting.name ++ "=" ++ value) = false :=
      isOutward_eq_false (by simp [ofText_joined])
    simp only [List.filter_cons, hkeep, hitem, Bool.not_false, if_true]
    exact .joined setting value ih
  | apart setting hvalue h ih =>
    rename_i value
    have hkeep : isOutward value = false := isOutward_eq_false (by simp [ofText_value hvalue])
    have hname : isOutward setting.name = false := by cases setting <;> decide
    simp only [List.filter_cons, hkeep, hname, hitem, Bool.not_false, if_true]
    exact .apart setting hvalue ih
  | switch switch h ih =>
    cases switch with
    | includeDeclaration => exact .switch .includeDeclaration ih
    | json => exact ih
    | strict => exact ih

theorem parse_filter {arguments : List String} {o : Options}
    (h : parse arguments = .ok (.run o)) :
    parse (arguments.filter (!isOutward ·)) = .ok (.run o.bare) := by
  obtain ⟨items, hw, g, hg, ho⟩ := parse_eq_run_iff.mp h
  exact parse_eq_run_iff.mpr ⟨_, hw.filter, g.bare, foldlM_take_bare hg, Given.complete_bare ho⟩

private theorem Given.isOn_of_set {g g' : Given} {setting : Setting} {value : String}
    (h : g.set setting value = .ok g') (switch : Switch) : g'.isOn switch = g.isOn switch := by
  obtain ⟨_, h⟩ := set_eq_ok_iff.mp h
  cases setting
  case file | url =>
    cases h
    cases switch <;> rfl
  all_goals
    obtain ⟨_, _, rfl⟩ := map_eq_ok_iff.mp h
    cases switch <;> rfl

private theorem Given.isOn_of_take {g g' : Given} {item : Item} (h : g.take item = .ok g')
    (switch : Switch) : g'.isOn switch = true ↔ g.isOn switch = true ∨ .switch switch = item := by
  cases item with
  | setting setting value => simp [isOn_of_set h]
  | switch other =>
    obtain ⟨_, rfl⟩ := turnOn_eq_ok_iff.mp h
    cases other <;> cases switch <;> simp [isOn]

private theorem isOn_of_foldlM {items : List Item} {g g' : Given}
    (h : items.foldlM Given.take g = .ok g') (switch : Switch) :
    g'.isOn switch = true ↔ g.isOn switch = true ∨ .switch switch ∈ items := by
  induction items generalizing g with
  | nil =>
    cases h
    simp
  | cons item rest ih =>
    rw [List.foldlM_cons] at h
    obtain ⟨next, htake, hrest⟩ := bind_eq_ok_iff.mp h
    rw [ih hrest, Given.isOn_of_take htake, List.mem_cons, or_assoc]

private theorem Given.isOn_of_complete {g : Given} {o : Options} (h : g.complete = .ok o)
    (switch : Switch) : o.isOn switch = g.isOn switch := by
  unfold complete at h
  split at h
  · cases h
    cases switch <;> rfl
  · cases h

/-- A switch is on in a run exactly if its name is among the arguments. -/
theorem isOn_iff_of_parse {arguments : List String} {o : Options}
    (h : parse arguments = .ok (.run o)) (switch : Switch) :
    o.isOn switch = true ↔ switch.name ∈ arguments := by
  obtain ⟨items, hw, g, hg, ho⟩ := parse_eq_run_iff.mp h
  have hoff : ({ } : Given).isOn switch = false := by cases switch <;> rfl
  rw [Given.isOn_of_complete ho, isOn_of_foldlM hg, hw.name_mem_iff, hoff]
  simp

end CommandLine

namespace Program

open CommandLine

/-- What a run asks does not depend on how it is printed or judged. -/
private theorem asked_eq_of_bare_eq {o o' : Options} (h : o'.bare = o.bare) (w : World) :
    asked w o' = asked w o := by
  have hbare (o : Options) : asked w o = asked w o.bare := rfl
  rw [hbare o', h, ← hbare o]

private theorem output_eq_of_bare_eq {o o' : Options} (h : o'.bare = o.bare)
    (hjson : o'.json = o.json) (e : Execution) : output o' e = output o e := by
  have hbare (o : Options) :
      output o e = (if o.json then e.json else e.text o.bare.target o.bare.includeDeclaration)
        ++ "\n" := rfl
  rw [hbare o', hbare o, h, hjson]

end Program

open Program CommandLine

/-- Neither where a run points to nor what it is told about its output shows in its results: the
one only in the bodies of its posts, the other only where it is meant to. -/
theorem results_independent_of_options (c : Client) (script : Script) :
    (∀ test target other b b',
      (c.run test target b script).Alike (c.run test other b' script)) ∧
    (∀ test target b b', test ≠ .single .references →
      (c.run test target b script).requests = (c.run test target b' script).requests ∧
      (c.run test target b script).result.text target b =
        (c.run test target b' script).result.text target b') ∧
    ∀ (w : World) (arguments arguments' : List String) (o o' : Options),
      parse arguments = .ok (.run o) → parse arguments' = .ok (.run o') →
      arguments.filter (!isOutward ·) = arguments'.filter (!isOutward ·) →
      (Program.run w arguments).requests = (Program.run w arguments').requests ∧
      (("--json" ∈ arguments ↔ "--json" ∈ arguments') →
        (Program.run w arguments).stdout = (Program.run w arguments').stdout) ∧
      (("--strict" ∈ arguments ↔ "--strict" ∈ arguments') →
        (Program.run w arguments).exit = (Program.run w arguments').exit) := by
  refine ⟨fun test target other b b' => c.run_alike test target other b b' script,
    fun test target b b' htest => ?_, fun w arguments arguments' o o' h h' hrest => ?_⟩
  · obtain ⟨hrun, htext⟩ := c.run_of_ne_references htest target b b' script
    exact ⟨congrArg Asked.requests hrun, htext⟩
  have hbare : o.bare = o'.bare := by
    -- Both command lines, with the two switches left out, are the same one.
    have hparse := parse_filter h
    rw [hrest, parse_filter h'] at hparse
    exact (Command.run.inj (Except.ok.inj hparse)).symm
  have hasked := asked_eq_of_bare_eq hbare w
  have htarget : o.target = o'.target := (congrArg (·.target) hbare :)
  have hswitch (switch : Switch) (hmem : switch.name ∈ arguments ↔ switch.name ∈ arguments') :
      o.isOn switch = o'.isOn switch := by
    rwa [← isOn_iff_of_parse h, ← isOn_iff_of_parse h', ← Bool.eq_iff_iff] at hmem
  rw [run_eq h, run_eq h', htarget]
  split
  · refine ⟨congrArg Asked.requests hasked, fun hmem => ?_, fun hmem => ?_⟩
    · have hjson : o.json = o'.json := hswitch .json hmem
      simp only [query, hasked, output_eq_of_bare_eq hbare hjson]
    · have hstrict : o.strict = o'.strict := hswitch .strict hmem
      simp only [query, hasked, hstrict]
  · exact ⟨rfl, fun _ => rfl, fun _ => rfl⟩

private def textArguments : List String :=
  ["--test=signature", "--file", "/a.ets", "--line", "20", "--character=28"]

private def judgedArguments : List String :=
  ["--strict", "--test=signature", "--file", "/a.ets", "--json", "--line", "20", "--character=28"]

private def textOptions : Options :=
  ⟨.single .signature, ⟨"/a.ets", 20, 28⟩, Config.defaultBaseUrl, false, 30, false, false⟩

private theorem parse_textArguments : parse textArguments = .ok (.run textOptions) := by
  decide +kernel

private theorem parse_judgedArguments :
    parse judgedArguments = .ok (.run { textOptions with json := true, strict := true }) := by
  decide +kernel

private def movedWorld : World where
  pathExists _ := true
  server := ⟨3000, true⟩
  script := [.answer (.pointing 307 "/moved"), .answer (.saying 200 "[]")]
  logLevel := .error

/-- A signature query that is redirected is asked in the same way with and without `--json` and
`--strict`, wherever they stand, and whether declarations are to be included. -/
theorem signature_independent_of_options :
    (TestKind.single .signature ≠ .single .references ∧
      parse textArguments = .ok (.run textOptions) ∧
      parse judgedArguments = .ok (.run { textOptions with json := true, strict := true }) ∧
      textArguments.filter (!isOutward ·) = judgedArguments.filter (!isOutward ·)) ∧
    ((Client.facing ⟨3000, true⟩).run (.single .signature) ⟨"/a.ets", 20, 28⟩ true
        movedWorld.script).requests =
      ((Client.facing ⟨3000, true⟩).run (.single .signature) ⟨"/a.ets", 20, 28⟩ false
        movedWorld.script).requests ∧
    (Program.run movedWorld textArguments).requests =
      (Program.run movedWorld judgedArguments).requests ∧
    (Program.run movedWorld textArguments).requests.map Request.target =
      ["/signature", "/moved"] := by
  have hfilter : textArguments.filter (!isOutward ·) = judgedArguments.filter (!isOutward ·) := by
    decide
  obtain ⟨_, hsignature, hprogram⟩ :=
    results_independent_of_options (Client.facing ⟨3000, true⟩) movedWorld.script
  refine ⟨⟨by decide, parse_textArguments, parse_judgedArguments, hfilter⟩, ?_, ?_,
    by decide +kernel⟩
  · exact (hsignature _ _ true false (by decide)).1
  · exact (hprogram movedWorld _ _ _ _ parse_textArguments parse_judgedArguments hfilter).1

end LspProbe
