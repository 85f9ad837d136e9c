import LspProbe.Proofs.Chains
import LspProbe.Proofs.Json.RoundTrip
import LspProbe.Proofs.Records
import LspProbe.Proofs.Spelling
import Mathlib.Data.List.Forall2
import Mathlib.Data.List.Nodup

/-!
# From the command line to the wire

The options of a run may be written in any order. Whatever the order, what they say about a place
arrives in the body of each query and on its banner alike.
-/

namespace LspProbe

namespace CommandLine

/-- A numeral starts with a digit, so it is read without a sign. -/
private theorem signed_toString {n : Nat} (h : n ≤ 0x7FFFFFFFFFFFFFFF) :
    signed (toString n) = .ok n := by
  have hdigits := digits_toString .tooLarge h
  unfold signed
  split
  case h_4 =>
    rw [hdigits]
    rfl
  all_goals
    next hs =>
      rw [hs] at hdigits
      cases hdigits

theorem coordinate_toString (n : UInt32) : coordinate (toString n.toNat) = .ok n := by
  have hlt := n.toNat_lt
  have hrange : (0 : Int) ≤ n.toNat ∧ (n.toNat : Int) < 0x100000000 := by omega
  rw [coordinate, signed_toString (by omega), ok_bind, if_pos hrange]
  simp

private theorem unsigned_toString {n : Nat} (h : n < 0x10000000000000000) :
    unsigned (toString n) = .ok n := by
  have hdigits := digits_toString .tooLarge (show n ≤ 0xFFFFFFFFFFFFFFFF by omega)
  unfold unsigned
  split
  case h_3 => exact hdigits
  all_goals
    next hs =>
      rw [hs] at hdigits
      cases hdigits

/-- The value of a setting as it is written. -/
def Options.valueOf (o : Options) : Setting → String
  | .test => o.test.name
  | .file => o.target.file
  | .line => toString o.target.line.toNat
  | .character => toString o.target.character.toNat
  | .url => o.url
  | .timeoutSecs => toString o.timeoutSecs

def Options.item (o : Options) (setting : Setting) : Item := .setting setting (o.valueOf setting)

/-- The options of a run, each once: all settings, and the switches that are on. -/
def Options.items (o : Options) : List Item :=
  Setting.all.map o.item ++ (Switch.all.filter o.isOn).map .switch

/-- What is given once some of the options of a run have been taken. -/
def Options.given (o : Options) (taken : Item → Bool) : Given where
  test := bif taken (o.item .test) then some o.test else none
  file := bif taken (o.item .file) then some o.target.file else none
  line := bif taken (o.item .line) then some o.target.line else none
  character := bif taken (o.item .character) then some o.target.character else none
  url := bif taken (o.item .url) then some o.url else none
  timeoutSecs := bif taken (o.item .timeoutSecs) then some o.timeoutSecs else none
  includeDeclaration := taken (.switch .includeDeclaration)
  json := taken (.switch .json)
  strict := taken (.switch .strict)

theorem mem_items_iff {o : Options} {item : Item} :
    item ∈ o.items ↔
      match item with
      | .setting setting value => value = o.valueOf setting
      | .switch switch => o.isOn switch = true := by
  have hsetting (setting : Setting) : setting ∈ Setting.all := by cases setting <;> decide
  have hswitch (switch : Switch) : switch ∈ Switch.all := by cases switch <;> decide
  cases item with
  | setting setting value =>
    simp only [Options.items, Options.item, List.mem_append, List.mem_map, Item.setting.injEq]
    constructor
    · rintro (⟨other, _, rfl, rfl⟩ | ⟨switch, _, hswitch⟩)
      · rfl
      · cases hswitch
    · rintro rfl
      exact .inl ⟨setting, hsetting setting, rfl, rfl⟩
  | switch switch => simp [Options.items, Options.item, hswitch]

theorem ofName?_name (test : TestKind) : TestKind.ofName? test.name = some test := by
  cases test with
  | single kind => cases kind <;> decide
  | all => decide

private theorem has_given (o : Options) (taken : Item → Bool) (setting : Setting) :
    (o.given taken).has setting = taken (o.item setting) := by
  have hsome {α : Type} (a : α) (b : Bool) : (bif b then some a else none).isSome = b := by
    cases b <;> rfl
  cases setting <;> exact hsome _ _

private theorem assign_given {o : Options} (htimeout : o.timeoutSecs < 0x10000000000000000)
    (taken : Item → Bool) (setting : Setting) :
    (o.given taken).assign setting (o.valueOf setting) =
      .ok (o.given fun item => item = o.item setting || taken item) := by
  cases setting with
  | test =>
    have htest : Given.testOf (o.valueOf .test) = .ok o.test := by
      rw [Given.testOf, Options.valueOf, ofName?_name]
    rw [Given.assign, htest]
    simp [Except.map, Options.given, Options.item]
  | file => simp [Given.assign, Options.given, Options.item, Options.valueOf]
  | line =>
    have hline : Given.numberOf .line (o.valueOf .line) (coordinate (o.valueOf .line)) =
        .ok o.target.line := by
      rw [Options.valueOf, coordinate_toString]
      rfl
    rw [Given.assign, hline]
    simp [Except.map, Options.given, Options.item]
  | character =>
    have hcharacter : Given.numberOf .character (o.valueOf .character)
        (coordinate (o.valueOf .character)) = .ok o.target.character := by
      rw [Options.valueOf, coordinate_toString]
      rfl
    rw [Given.assign, hcharacter]
    simp [Except.map, Options.given, Options.item]
  | url => simp [Given.assign, Options.given, Options.item, Options.valueOf]
  | timeoutSecs =>
    have hsecs : Given.numberOf .timeoutSecs (o.valueOf .timeoutSecs)
        (unsigned (o.valueOf .timeoutSecs)) = .ok o.timeoutSecs := by
      rw [Options.valueOf, unsigned_toString htimeout]
      rfl
    rw [Given.assign, hsecs]
    simp [Except.map, Options.given, Options.item]

/-- Taking one more option of a run. -/
private theorem take_given {o : Options} (htimeout : o.timeoutSecs < 0x10000000000000000)
    {item : Item} {taken : Item → Bool} (hitem : item ∈ o.items) (hnew : taken item = false) :
    (o.given taken).take item = .ok (o.given fun other => other = item || taken other) := by
  rw [mem_items_iff] at hitem
  cases item with
  | setting setting value =>
    cases hitem
    exact Given.set_eq_ok_iff.mpr
      ⟨(has_given o taken setting).trans hnew, assign_given htimeout taken setting⟩
  | switch switch =>
    refine Given.turnOn_eq_ok_iff.mpr ⟨?_, ?_⟩
    · cases switch <;> exact hnew
    · cases switch <;> simp [Options.given, Options.item]

private theorem foldlM_take_given {o : Options} (htimeout : o.timeoutSecs < 0x10000000000000000)
    {items : List Item} {taken : Item → Bool} (hitems : ∀ item ∈ items, item ∈ o.items)
    (hnodup : items.Nodup) (hnew : ∀ item ∈ items, taken item = false) :
    items.foldlM Given.take (o.given taken) =
      .ok (o.given fun other => items.contains other || taken other) := by
  induction items generalizing taken with
  | nil => rfl
  | cons item rest ih =>
    obtain ⟨hfresh, hrest⟩ := List.nodup_cons.mp hnodup
    have htake := take_given htimeout (hitems item List.mem_cons_self)
      (hnew item List.mem_cons_self)
    rw [List.foldlM_cons, htake, ok_bind,
      ih (fun i hi => hitems i (List.mem_cons_of_mem _ hi)) hrest]
    · congr 2
      funext other
      by_cases hother : other = item <;> simp [hother]
    · intro other hother
      have hne : other ≠ item := fun heq => hfresh (heq ▸ hother)
      simp [hne, hnew other (List.mem_cons_of_mem _ hother)]

private theorem nodup_items (o : Options) : o.items.Nodup := by
  have hsettings : (Setting.all.map o.item).Nodup := by
    refine List.Nodup.map ?_ (by decide)
    intro setting other h
    exact (Item.setting.inj h).1
  have hswitches : ((Switch.all.filter o.isOn).map Item.switch).Nodup := by
    refine List.Nodup.map ?_ (List.Nodup.filter _ (by decide))
    intro switch other h
    exact Item.switch.inj h
  refine List.nodup_append.mpr ⟨hsettings, hswitches, ?_⟩
  intro item hitem other hother
  obtain ⟨setting, _, rfl⟩ := List.mem_map.mp hitem
  obtain ⟨switch, _, rfl⟩ := List.mem_map.mp hother
  exact Item.noConfusion

private theorem complete_given (o : Options) {taken : Item → Bool}
    (h : ∀ item, taken item = true ↔ item ∈ o.items) : (o.given taken).complete = .ok o := by
  have hsetting (setting : Setting) : taken (o.item setting) = true :=
    (h _).mpr (mem_items_iff.mpr rfl)
  have hswitch (switch : Switch) : taken (.switch switch) = o.isOn switch :=
    Bool.eq_iff_iff.mpr ((h _).trans mem_items_iff)
  simp [Given.complete, Options.given, hsetting, hswitch, Options.isOn]

/-- Whatever the order in which its options are written, they are read as the same run. -/
theorem parse_of_perm {o : Options} (htimeout : o.timeoutSecs < 0x10000000000000000)
    {items : List Item} (hperm : items.Perm o.items) {arguments : List String}
    (hw : Written items arguments) : parse arguments = .ok (.run o) := by
  have hfold := foldlM_take_given htimeout
    (fun item => hperm.mem_iff.mp) (hperm.nodup_iff.mpr (nodup_items o)) fun _ _ => rfl
  refine parse_eq_run_iff.mpr ⟨items, hw, _, hfold, complete_given o fun item => ?_⟩
  rw [Bool.or_false, List.contains_iff_mem]
  exact hperm.mem_iff

end CommandLine

open Http

/-- The URL of a kind of query, if it can be put into a request that reaches the server. -/
structure Config.Reaches (c : Config) (network : Network) (kind : QueryKind) (url : Url) : Prop
    extends c.Builds kind url where
  reached : network.Reaches url.addressed

theorem Client.ask_head?_of_reaches {c : Client} {q : Query} {url : Url}
    (h : c.config.Reaches c.network q.kind url) (script : Script) :
    (c.ask q script).requests.head? = some (posting url q.body) := by
  rw [ask_requests, c.play_of_builds q h.toBuilds, chase_head?,
    if_pos (Network.barrier?_eq_none_iff.mpr h.reached)]

/-- Whether declarations are asked for, if a query says so. -/
def Query.declaration? : Query → Option Bool
  | .references _ b => some b
  | _ => none

/-- The object that asks about a place. -/
def Target.asked (t : Target) (declaration? : Option Bool) : Json :=
  .obj ([("character", .nat t.character.toNat)]
    ++ (declaration?.map fun b => ("includeDeclaration", Json.bool b)).toList
    ++ [("line", .nat t.line.toNat), ("uri", .str ("file://" ++ t.file))])

theorem Query.mem_members {q : Query} {m : String × Json} (h : m ∈ q.members) :
    m = ("uri", .str q.position.uri) ∨ m = ("line", .nat q.position.line.toNat) ∨
      m = ("character", .nat q.position.character.toNat) ∨
      ∃ b, m = ("includeDeclaration", .bool b) := by
  have hposition (p : Position) (h : m ∈ p.members) : m = ("uri", .str p.uri) ∨
      m = ("line", .nat p.line.toNat) ∨ m = ("character", .nat p.character.toNat) := by
    simpa [Position.members] using h
  cases q with
  | definition p => exact (hposition p h).imp_right (.imp_right .inl)
  | signature p => exact (hposition p h).imp_right (.imp_right .inl)
  | references p b =>
    rcases List.mem_append.mp h with h | h
    · exact (hposition p h).imp_right (.imp_right .inl)
    · exact .inr (.inr (.inr ⟨b, List.mem_singleton.mp h⟩))

theorem Query.exact_members (q : Query) : (Json.obj q.members).Exact := by
  have hnat (n : UInt32) : (Json.nat n.toNat).Exact := by
    have hlt := n.toNat_lt
    exact .int ⟨by omega, by omega⟩
  refine .obj fun m hm => ?_
  rcases q.mem_members hm with rfl | rfl | rfl | ⟨b, rfl⟩
  · exact .str _
  · exact hnat _
  · exact hnat _
  · exact .bool b

theorem Query.depth_members (q : Query) : (Json.obj q.members).depth ≤ Json.maxNesting := by
  refine Json.depth_obj_le_iff.mpr fun m hm => ?_
  rcases q.mem_members hm with rfl | rfl | rfl | ⟨b, rfl⟩ <;> exact Nat.zero_le _

theorem Query.ordered_members {q : Query} {t : Target} (h : q.position = t.position) :
    (Json.obj q.members).ordered = t.asked q.declaration? := by
  have hline : "line" < "uri" := by decide
  have hcharacter : "character" < "line" := by decide
  have hbefore : "includeDeclaration" < "line" := by decide
  have hafter : ¬"includeDeclaration" < "character" := by decide
  cases q <;> cases h <;>
    simp [members, Position.members, position, Json.ordered, Json.orderedMembers,
      Json.Members.ofList, Json.Members.insert, Target.asked, declaration?, Json.nat, hline,
      hcharacter, hbefore, hafter]

theorem Query.parse_body {q : Query} {t : Target} (h : q.position = t.position) :
    Json.parse (Utf8.encode q.body) = .ok (t.asked q.declaration?) := by
  rw [← ordered_members h]
  exact Json.parse_write Json.Layout.compact_isBlank q.exact_members 0 q.depth_members

/-- The line that announces a query about a place. -/
def Query.announcement (q : Query) (t : Target) : String :=
  "Testing " ++ q.kind.name ++ ": " ++ t.file ++ ":" ++ toString t.line.toNat ++ ":"
    ++ toString t.character.toNat ++
    match q.declaration? with
    | some b => " (include declaration: " ++ (if b then "true" else "false") ++ ")"
    | none => ""

attribute [local irreducible] exchange

/-- The text of a run: each query is announced before what it came to. -/
theorem Client.run_text (c : Client) (test : TestKind) (target : Target) (b : Bool)
    (script : Script) :
    ∃ bodies closing : List String,
      bodies.length = (test.queries target.position b).length ∧
      (c.run test target b script).result.text target b =
        String.intercalate "\n\n"
          (List.zipWith (fun q body => q.announcement target ++ "\n" ++ body)
            (test.queries target.position b) bodies ++ closing) := by
  cases test with
  | single kind =>
    obtain ⟨run, hrun⟩ :
        ∃ run, (c.run (.single kind) target b script).result = .single kind run := by
      cases kind <;> exact ⟨_, rfl⟩
    rw [hrun]
    refine ⟨[run.text kind], [], ?_, ?_⟩
    · cases kind <;> rfl
    · cases kind <;> rfl
  | all =>
    obtain ⟨s, hs⟩ : ∃ s, (c.run .all target b script).result = .all s := ⟨_, rfl⟩
    rw [hs]
    exact ⟨[Report.locations .definition s.definition, Report.locations .references s.references,
      Report.signature s.signature], [s.summary], rfl, rfl⟩

private theorem Client.askAll_forall₂ {c : Client} {holds : Query → Asked (Outcome Json) → Prop}
    {queries : List Query} (h : ∀ q ∈ queries, ∀ script, holds q (c.ask q script))
    (script : Script) : List.Forall₂ holds queries (c.askAll queries script) := by
  induction queries generalizing script with
  | nil => exact .nil
  | cons q rest ih =>
    refine .cons (h q List.mem_cons_self script) ?_
    exact ih (fun q hq => h q (List.mem_cons_of_mem _ hq)) _

theorem TestKind.position_of_mem_queries {test : TestKind} {p : Position} {b : Bool} {q : Query}
    (h : q ∈ test.queries p b) : q.position = p := by
  cases test with
  | single kind =>
    cases kind with
    | definition => cases List.mem_singleton.mp h; rfl
    | references => cases List.mem_singleton.mp h; rfl
    | signature => cases List.mem_singleton.mp h; rfl
  | all =>
    simp only [queries, List.mem_cons, List.not_mem_nil, or_false] at h
    rcases h with rfl | rfl | rfl <;> rfl

/-- A request that posts a query about a place to its URL. -/
structure Query.SentAs (q : Query) (t : Target) (url : Url) (r : Request) : Prop where
  method : r.method = .post
  target : r.target = url.target
  contentType : r.contentType = some "application/json"
  body : Json.parse (Utf8.encode r.body) = .ok (t.asked q.declaration?)

open Program CommandLine

/-- Options in any order say the same to the server and to the reader. Each query of a run opens
with a request that posts it, and is announced with the same place and the same flag. -/
theorem options_agree_on_wire_and_banner (w : World) (o : Options) (items : List Item)
    (arguments : List String) (htimeout : o.timeoutSecs < 0x10000000000000000)
    (hperm : items.Perm o.items) (hwritten : Written items arguments)
    (hfile : w.pathExists o.target.file = true)
    (hreach : ∀ q ∈ o.test.queries o.target.position o.includeDeclaration,
      ∃ url, o.config.Reaches w.network q.kind url) :
    let queries := o.test.queries o.target.position o.includeDeclaration
    let asked := Client.askAll ⟨o.config, w.network⟩ queries w.script
    queries.map (fun q => (q.kind, q.declaration?)) =
      (match o.test with
        | .single kind => [(kind, if kind = .references then some o.includeDeclaration else none)]
        | .all => [(.definition, none), (.references, some true), (.signature, none)]) ∧
    (Program.run w arguments).requests = asked.flatMap Asked.requests ∧
    List.Forall₂ (fun q a => ∃ url r, o.config.Reaches w.network q.kind url ∧
      a.requests.head? = some r ∧ q.SentAs o.target url r) queries asked ∧
    (o.json = false → ∃ bodies closing : List String, bodies.length = queries.length ∧
      (Program.run w arguments).stdout =
        String.intercalate "\n\n"
          (List.zipWith (fun q body => q.announcement o.target ++ "\n" ++ body) queries bodies
            ++ closing) ++ "\n") := by
  intro queries asked
  have hrun : Program.run w arguments = query w o := by
    rw [run_eq (parse_of_perm htimeout hperm hwritten), if_pos hfile]
  refine ⟨?_, ?_, Client.askAll_forall₂ (fun q hq script => ?_) w.script, fun hjson => ?_⟩
  · simp only [queries]
    cases o.test with
    | single kind => cases kind <;> rfl
    | all => rfl
  · rw [hrun]
    exact Client.run_requests _ _ _ _ _
  · obtain ⟨url, hurl⟩ := hreach q hq
    exact ⟨url, posting url q.body, hurl, Client.ask_head?_of_reaches hurl script,
      ⟨rfl, rfl, rfl, Query.parse_body (TestKind.position_of_mem_queries hq)⟩⟩
  · obtain ⟨bodies, closing, hlength, htext⟩ :=
      Client.run_text ⟨o.config, w.network⟩ o.test o.target o.includeDeclaration w.script
    refine ⟨bodies, closing, hlength, ?_⟩
    rw [hrun, query, output, hjson, if_neg Bool.false_ne_true, Program.asked, htext]

private def wireOptions : Options :=
  ⟨.all, ⟨"-a \"b\".ets", 20, 4294967295⟩, "http://localhost:3000/", false, 0, false, true⟩

private def wireItems : List Item :=
  [.setting .url "http://localhost:3000/", .switch .strict, .setting .character "4294967295",
    .setting .file "-a \"b\".ets", .setting .test "all", .setting .timeoutSecs "0",
    .setting .line "20"]

private def wireArguments : List String :=
  ["--url", "http://localhost:3000/", "--strict", "--character=4294967295",
    "--file=-a \"b\".ets", "--test", "all", "--timeout-secs", "0", "--line=20"]

private theorem wireItems_written : Written wireItems wireArguments := by
  refine .apart .url (by simp [IsValue]) (.switch .strict (.joined .character "4294967295" ?_))
  refine .joined .file "-a \"b\".ets" (.apart .test (by simp [IsValue]) ?_)
  exact .apart .timeoutSecs (by simp [IsValue]) (.joined .line "20" .nothing)

private def wireWorld : World where
  pathExists _ := true
  server := ⟨3000, true⟩
  script := [.close, .garbage, .close]
  logLevel := .error

private def wireUrl (kind : QueryKind) : Url :=
  ⟨"http", some ⟨"", none, .name "localhost", some 3000⟩, .segments [kind.name], none, none⟩

private theorem wireUrl_reached (kind : QueryKind) :
    wireOptions.config.Reaches wireWorld.network kind (wireUrl kind) := by
  cases kind <;>
    exact ⟨⟨by decide +kernel, by decide +kernel, by decide +kernel⟩,
      ⟨by decide +kernel, by decide +kernel, rfl⟩⟩

/-- A file whose name starts with a hyphen and has quotes in it, on a server that is called by name
and answers nothing. -/
theorem quoted_file_on_wire_and_banner :
    (wireItems.Perm wireOptions.items ∧ Written wireItems wireArguments ∧
      wireOptions.config.Reaches wireWorld.network .definition (wireUrl .definition)) ∧
    ∃ url r, wireOptions.config.Reaches wireWorld.network .definition url ∧
      (Program.run wireWorld wireArguments).requests.head? = some r ∧
      (Query.definition wireOptions.target.position).SentAs wireOptions.target url r := by
  have hperm : wireItems.Perm wireOptions.items := by decide +kernel
  obtain ⟨_, hrequests, hfirst, _⟩ :=
    options_agree_on_wire_and_banner wireWorld wireOptions wireItems wireArguments (by decide)
      hperm wireItems_written rfl fun q _ => ⟨_, wireUrl_reached q.kind⟩
  refine ⟨⟨hperm, wireItems_written, wireUrl_reached .definition⟩, ?_⟩
  obtain ⟨⟨url, r, hurl, hhead, hsent⟩, _⟩ := List.forall₂_cons.mp hfirst
  have hqueries : wireOptions.test.queries wireOptions.target.position false =
      [.definition wireOptions.target.position, .references wireOptions.target.position true,
        .signature wireOptions.target.position] := rfl
  refine ⟨url, r, hurl, ?_, hsent⟩
  rw [hrequests, show wireOptions.includeDeclaration = false from rfl, hqueries, Client.askAll,
    List.flatMap_cons, List.head?_append, hhead, Option.some_or]

end LspProbe
