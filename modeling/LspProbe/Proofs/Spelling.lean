import LspProbe.CommandLine.Parser
import LspProbe.Proofs.Steps

/-!
# How command lines are spelled

A command line that asks for a run is a list of options, each spelled in one or two arguments. The
reader accepts exactly the spellings of options that can be taken one after the other and complete
each other.
-/

namespace LspProbe.CommandLine

/-- An option as it is meant, however it is spelled. -/
inductive Item where
  | setting (setting : Setting) (value : String)
  | switch (switch : Switch)
  deriving DecidableEq

/-- A separate argument is taken as a value unless it starts like an option; a lone hyphen does
not count as one. -/
def IsValue (s : String) : Prop := s.toList.head? = some '-' → s = "-"

/-- Arguments that spell options in their order. A separator may end them. -/
inductive Written : List Item → List String → Prop
  | nothing : Written [] []
  | separator : Written [] ["--"]
  | joined {items : List Item} {arguments : List String} (setting : Setting) (value : String)
      (h : Written items arguments) :
      Written (.setting setting value :: items) ((setting.name ++ "=" ++ value) :: arguments)
  | apart {items : List Item} {arguments : List String} (setting : Setting) {value : String}
      (hvalue : IsValue value) (h : Written items arguments) :
      Written (.setting setting value :: items) (setting.name :: value :: arguments)
  | switch {items : List Item} {arguments : List String} (switch : Switch)
      (h : Written items arguments) : Written (.switch switch :: items) (switch.name :: arguments)

def Given.take (g : Given) : Item → Except UsageError Given
  | .setting setting value => g.set setting value
  | .switch switch => g.turnOn switch

/-- Options that are taken one after the other and leave nothing required open. -/
def Completes (g : Given) (items : List Item) (o : Options) : Prop :=
  ∃ g', items.foldlM Given.take g = .ok g' ∧ g'.complete = .ok o

theorem completes_cons_iff {g : Given} {item : Item} {items : List Item} {o : Options} :
    Completes g (item :: items) o ↔ ∃ g', g.take item = .ok g' ∧ Completes g' items o := by
  simp only [Completes, List.foldlM_cons, bind_eq_ok_iff]
  constructor
  · rintro ⟨last, ⟨next, htake, hrest⟩, hlast⟩
    exact ⟨next, htake, last, hrest, hlast⟩
  · rintro ⟨next, htake, last, hrest, hlast⟩
    exact ⟨last, ⟨next, htake, hrest⟩, hlast⟩

theorem Given.set_eq_ok_iff {g g' : Given} {setting : Setting} {value : String} :
    g.set setting value = .ok g' ↔ g.has setting = false ∧ g.assign setting value = .ok g' := by
  unfold set
  cases g.has setting <;> simp

theorem Given.turnOn_eq_ok_iff {g g' : Given} {switch : Switch} :
    g.turnOn switch = .ok g' ↔ g.isOn switch = false ∧
      g' = match switch with
        | .includeDeclaration => { g with includeDeclaration := true }
        | .json => { g with json := true }
        | .strict => { g with strict := true } := by
  unfold turnOn
  cases g.isOn switch with
  | true => simp
  | false => cases switch <;> simp [eq_comm]

def Options.isOn (o : Options) : Switch → Bool
  | .includeDeclaration => o.includeDeclaration
  | .json => o.json
  | .strict => o.strict

/-- What an argument looks like, by the form it is taken in. -/
def Argument.IsFormOf (s : String) : Argument → Prop
  | .separator => s = "--"
  | .long name none => s = name
  | .long name (some value) => s = name ++ "=" ++ value
  | .short _ => True
  | .plain text => s = text ∧ IsValue s

private theorem isFormOf_ofText (s : String) : (Argument.ofText s).IsFormOf s := by
  unfold Argument.ofText
  split
  · next h => exact String.toList_inj.mp h
  · next rest _ h =>
    have hsplit := List.takeWhile_append_dropWhile (p := (· ≠ '=')) (l := rest)
    cases hd : rest.dropWhile (· ≠ '=') with
    | nil =>
      rw [hd, List.append_nil] at hsplit
      rw [hsplit, ← h, String.ofList_toList]
      rfl
    | cons c value =>
      have hc : c = '=' := by
        have hhead := List.head?_dropWhile_not (· ≠ '=') rest
        rw [hd] at hhead
        simpa using hhead
      subst hc
      rw [hd] at hsplit
      apply String.toList_inj.mp
      rw [h]
      generalize List.takeWhile _ rest = name at hsplit ⊢
      simp [← hsplit]
  · trivial
  · next h2 h3 h4 =>
    refine ⟨rfl, fun hhead => ?_⟩
    cases hs : s.toList with
    | nil =>
      rw [hs] at hhead
      cases hhead
    | cons c rest =>
      rw [hs] at hhead
      cases hhead
      cases rest with
      | nil => exact String.toList_inj.mp hs
      | cons letter rest => exact absurd hs (h4 letter rest)

theorem ofText_joined (setting : Setting) (value : String) :
    Argument.ofText (setting.name ++ "=" ++ value) = .long setting.name (some value) := by
  cases setting <;>
    simp [Argument.ofText, Setting.name]

theorem ofText_setting (setting : Setting) :
    Argument.ofText setting.name = .long setting.name none := by
  cases setting <;> decide

theorem ofText_switch (switch : Switch) :
    Argument.ofText switch.name = .long switch.name none := by
  cases switch <;> decide

theorem ofText_value {s : String} (h : IsValue s) : Argument.ofText s = .plain s := by
  have hshort {c : Char} {rest : List Char} (hs : s.toList = '-' :: c :: rest) : False := by
    rw [h (by rw [hs]; rfl)] at hs
    simp at hs
  unfold Argument.ofText
  split
  · next hs => exact (hshort hs).elim
  · next hs => exact (hshort hs).elim
  · next hs => exact (hshort hs).elim
  · rfl

/-- Goes on with the arguments after a step, unless it ended the reading. -/
def Step.read : Step → List String → Except UsageError Command
  | .error e, _ => .error e
  | .ok (.inr notice), _ => .ok (.notice notice)
  | .ok (.inl s), rest => s.read rest

private theorem Step.read_eq_run_iff {step : Step} {rest : List String} {o : Options} :
    Step.read step rest = .ok (.run o) ↔
      ∃ s, step = .ok (.inl s) ∧ s.read rest = .ok (.run o) := by
  match step with
  | .error e => simp [Step.read]
  | .ok (.inr notice) => simp [Step.read]
  | .ok (.inl s) => simp [Step.read]

section

variable (s : State)

private theorem State.match_step_eq_read (step : Step) (rest : List String) :
    (match some step, rest with
      | none, [] => s.finish
      | none, next :: _ => .error (.unexpectedArgument next)
      | some (.error e), _ => .error e
      | some (.ok (.inr notice)), _ => .ok (.notice notice)
      | some (.ok (.inl s)), rest => s.read rest) = Step.read step rest := by
  rcases step with e | t | notice
  · rfl
  · rfl
  · rfl

private theorem State.read_cons (argument : String) (rest : List String) :
    s.read (argument :: rest) =
      match Argument.ofText argument with
      | .separator => if h : rest = [] then s.finish else .error (.unexpectedArgument (rest.head h))
      | .long name value => Step.read (s.long name value) rest
      | .short letter => Step.read (s.short letter) rest
      | .plain text => Step.read (s.plain text) rest := by
  rw [State.read.eq_def]
  dsimp only
  cases Argument.ofText argument with
  | separator => cases rest <;> rfl
  | long name value => exact s.match_step_eq_read _ rest
  | short letter => exact s.match_step_eq_read _ rest
  | plain text => exact s.match_step_eq_read _ rest

private theorem State.long_setting (setting : Setting) :
    s.long setting.name none = s.settle >>= fun g => goOn g (.waiting setting) := by
  cases setting <;> rfl

private theorem State.long_joined (setting : Setting) (value : String) :
    s.long setting.name (some value) =
      s.settle >>= fun g => g.set setting value >>= fun g => goOn g .nothing := by
  cases setting <;> rfl

private theorem State.long_switch (switch : Switch) :
    s.long switch.name none =
      s.settle >>= fun g => g.turnOn switch >>= fun g => goOn g .nothing := by
  cases switch <;> rfl

end

private theorem State.finish_eq_run_iff {s : State} {o : Options} :
    s.finish = .ok (.run o) ↔ ∃ g, s.settle = .ok g ∧ g.complete = .ok o := by
  simp only [finish, bind_eq_ok_iff, Except.ok.injEq, Command.run.injEq]
  constructor
  · rintro ⟨g, hg, _, ho, rfl⟩
    exact ⟨g, hg, ho⟩
  · rintro ⟨g, hg, ho⟩
    exact ⟨g, hg, o, ho, rfl⟩

/-- What a long option that is taken may be. -/
private theorem State.long_eq_goOn {s t : State} {name : String} {value : Option String}
    (h : s.long name value = .ok (.inl t)) :
    ∃ g, s.settle = .ok g ∧
      ((∃ setting, name = setting.name ∧ value = none ∧ t = ⟨g, .waiting setting⟩) ∨
      (∃ setting v g', name = setting.name ∧ value = some v ∧ g.set setting v = .ok g' ∧
        t = ⟨g', .nothing⟩) ∨
      ∃ switch g', name = switch.name ∧ value = none ∧ g.turnOn switch = .ok g' ∧
        t = ⟨g', .nothing⟩) := by
  unfold long at h
  split at h
  · next setting hsetting =>
    have hname : setting.name = name := by simpa using List.find?_some hsetting
    obtain ⟨g, hg, h⟩ := bind_eq_ok_iff.mp h
    cases h
    exact ⟨g, hg, .inl ⟨setting, hname.symm, rfl, rfl⟩⟩
  · next setting v hsetting =>
    have hname : setting.name = name := by simpa using List.find?_some hsetting
    obtain ⟨g, hg, h⟩ := bind_eq_ok_iff.mp h
    obtain ⟨g', hg', h⟩ := bind_eq_ok_iff.mp h
    cases h
    exact ⟨g, hg, .inr (.inl ⟨setting, v, g', hname.symm, rfl, hg', rfl⟩)⟩
  · next switch _ hswitch =>
    have hname : switch.name = name := by simpa using List.find?_some hswitch
    obtain ⟨g, hg, h⟩ := bind_eq_ok_iff.mp h
    obtain ⟨g', hg', h⟩ := bind_eq_ok_iff.mp h
    cases h
    exact ⟨g, hg, .inr (.inr ⟨switch, g', hname.symm, rfl, hg', rfl⟩)⟩
  · obtain ⟨_, _, h⟩ := bind_eq_ok_iff.mp h
    cases h
  · cases h
  · cases h

private theorem State.short_ne_goOn (s t : State) (letter : Char) :
    s.short letter ≠ .ok (.inl t) := by
  intro h
  unfold short at h
  split at h
  · obtain ⟨_, _, h⟩ := bind_eq_ok_iff.mp h
    cases h
  · split at h
    · obtain ⟨_, _, h⟩ := bind_eq_ok_iff.mp h
      cases h
    · cases h

private theorem State.plain_eq_goOn {s t : State} {text : String}
    (h : s.plain text = .ok (.inl t)) :
    ∃ setting, s.pending = .waiting setting ∧ t = ⟨s.given, .filled setting text⟩ := by
  unfold plain at h
  split at h
  · next setting hp =>
    cases h
    exact ⟨setting, hp, rfl⟩
  · cases h

/-- How the reading of a run goes on after an argument. -/
private theorem State.read_cons_eq_run {s : State} {argument : String} {rest : List String}
    {o : Options} (h : s.read (argument :: rest) = .ok (.run o)) :
    (argument = "--" ∧ rest = [] ∧ s.finish = .ok (.run o)) ∨
    (∃ setting g, argument = setting.name ∧ s.settle = .ok g ∧
      State.read ⟨g, .waiting setting⟩ rest = .ok (.run o)) ∨
    (∃ item g g', Written [item] [argument] ∧ s.settle = .ok g ∧ g.take item = .ok g' ∧
      State.read ⟨g', .nothing⟩ rest = .ok (.run o)) ∨
    ∃ setting, s.pending = .waiting setting ∧ IsValue argument ∧
      State.read ⟨s.given, .filled setting argument⟩ rest = .ok (.run o) := by
  have hform := isFormOf_ofText argument
  rw [read_cons] at h
  cases ha : Argument.ofText argument with
  | separator =>
    rw [ha] at h hform
    simp only at h
    split at h
    · next hrest => exact .inl ⟨hform, hrest, h⟩
    · cases h
  | long name value =>
    rw [ha] at h hform
    obtain ⟨t, hstep, h⟩ := Step.read_eq_run_iff.mp h
    obtain ⟨g, hg, hcases⟩ := long_eq_goOn hstep
    rcases hcases with ⟨setting, rfl, rfl, rfl⟩ | ⟨setting, v, g', rfl, rfl, hset, rfl⟩ |
      ⟨switch, g', rfl, rfl, hon, rfl⟩
    · exact .inr (.inl ⟨setting, g, hform, hg, h⟩)
    · cases hform
      exact .inr (.inr (.inl ⟨.setting setting v, g, g', .joined _ _ .nothing, hg, hset, h⟩))
    · cases hform
      exact .inr (.inr (.inl ⟨.switch switch, g, g', .switch _ .nothing, hg, hon, h⟩))
  | short letter =>
    rw [ha] at h
    obtain ⟨t, hstep, _⟩ := Step.read_eq_run_iff.mp h
    exact absurd hstep (s.short_ne_goOn t letter)
  | plain text =>
    rw [ha] at h hform
    obtain ⟨t, hstep, h⟩ := Step.read_eq_run_iff.mp h
    obtain ⟨setting, hp, rfl⟩ := plain_eq_goOn hstep
    obtain ⟨rfl, hvalue⟩ := hform
    exact .inr (.inr (.inr ⟨setting, hp, hvalue, h⟩))

theorem Written.cons {item : Item} {items : List Item} {argument : String}
    {arguments : List String} (h : Written [item] [argument]) (hrest : Written items arguments) :
    Written (item :: items) (argument :: arguments) := by
  cases h with
  | joined setting value h => exact .joined setting value hrest
  | switch switch h => exact .switch switch hrest

/-- Arguments that complete what a state has taken, starting with the value it waits for. -/
def State.Accepts (s : State) (arguments : List String) (o : Options) : Prop :=
  match s.pending with
  | .nothing => ∃ items, Written items arguments ∧ Completes s.given items o
  | .waiting setting => ∃ value rest items, arguments = value :: rest ∧ IsValue value ∧
    Written items rest ∧ Completes s.given (.setting setting value :: items) o
  | .filled setting value => ∃ items, Written items arguments ∧
    Completes s.given (.setting setting value :: items) o

private theorem State.accepts_of_settle {s : State} {g : Given} (hs : s.settle = .ok g)
    {items : List Item} {arguments : List String} (hw : Written items arguments) {o : Options}
    (ho : Completes g items o) : s.Accepts arguments o := by
  obtain ⟨given, pending⟩ := s
  cases pending with
  | nothing =>
    cases hs
    exact ⟨items, hw, ho⟩
  | waiting setting => cases hs
  | filled setting value => exact ⟨items, hw, completes_cons_iff.mpr ⟨g, hs, ho⟩⟩

theorem State.accepts_of_read {s : State} {arguments : List String} {o : Options}
    (h : s.read arguments = .ok (.run o)) : s.Accepts arguments o := by
  induction arguments generalizing s with
  | nil =>
    obtain ⟨g, hg, ho⟩ := finish_eq_run_iff.mp h
    exact accepts_of_settle hg .nothing ⟨g, rfl, ho⟩
  | cons argument rest ih =>
    rcases read_cons_eq_run h with ⟨rfl, rfl, hfinish⟩ | ⟨setting, g, rfl, hg, h⟩ |
      ⟨item, g, g', hitem, hg, htake, h⟩ | ⟨setting, hp, hvalue, h⟩
    · obtain ⟨g, hg, ho⟩ := finish_eq_run_iff.mp hfinish
      exact accepts_of_settle hg .separator ⟨g, rfl, ho⟩
    · -- The setting stays open, so the next argument is its value.
      obtain ⟨value, rest, items, rfl, hvalue, hw, ho⟩ := ih h
      exact accepts_of_settle hg (.apart setting hvalue hw) ho
    · obtain ⟨items, hw, ho⟩ := ih h
      exact accepts_of_settle hg (hitem.cons hw) (completes_cons_iff.mpr ⟨g', htake, ho⟩)
    · obtain ⟨items, hw, ho⟩ := ih h
      rw [Accepts, hp]
      exact ⟨argument, rest, items, rfl, hvalue, hw, ho⟩

theorem State.read_of_written {items : List Item} {arguments : List String}
    (hw : Written items arguments) {s : State} {g : Given} (hs : s.settle = .ok g) {o : Options}
    (ho : Completes g items o) : s.read arguments = .ok (.run o) := by
  induction hw generalizing s g with
  | nothing =>
    obtain ⟨_, ⟨⟩, ho⟩ := ho
    exact finish_eq_run_iff.mpr ⟨g, hs, ho⟩
  | separator =>
    obtain ⟨_, ⟨⟩, ho⟩ := ho
    have hform : Argument.ofText "--" = .separator := by decide
    rw [read_cons, hform]
    exact finish_eq_run_iff.mpr ⟨g, hs, ho⟩
  | joined setting value hw ih =>
    obtain ⟨g', hset, ho⟩ := completes_cons_iff.mp ho
    have hstep : s.long setting.name (some value) = goOn g' .nothing := by
      rw [long_joined, hs, ok_bind, show g.set setting value = _ from hset, ok_bind]
    rw [read_cons, ofText_joined]
    exact Step.read_eq_run_iff.mpr ⟨_, hstep, ih rfl ho⟩
  | apart setting hvalue hw ih =>
    rename_i value
    obtain ⟨g', hset, ho⟩ := completes_cons_iff.mp ho
    have hstep : s.long setting.name none = goOn g (.waiting setting) := by
      rw [long_setting, hs, ok_bind]
    rw [read_cons, ofText_setting]
    refine Step.read_eq_run_iff.mpr ⟨_, hstep, ?_⟩
    rw [read_cons, ofText_value hvalue]
    exact Step.read_eq_run_iff.mpr ⟨⟨g, .filled setting value⟩, rfl, ih hset ho⟩
  | switch switch hw ih =>
    obtain ⟨g', hon, ho⟩ := completes_cons_iff.mp ho
    have hstep : s.long switch.name none = goOn g' .nothing := by
      rw [long_switch, hs, ok_bind, show g.turnOn switch = _ from hon, ok_bind]
    rw [read_cons, ofText_switch]
    exact Step.read_eq_run_iff.mpr ⟨_, hstep, ih rfl ho⟩

/-- A command line asks for a run exactly if it spells options that complete each other. -/
theorem parse_eq_run_iff {arguments : List String} {o : Options} :
    parse arguments = .ok (.run o) ↔
      ∃ items, Written items arguments ∧ Completes { } items o :=
  ⟨State.accepts_of_read, fun ⟨_, hw, ho⟩ => State.read_of_written hw rfl ho⟩

theorem Written.name_mem_iff {items : List Item} {arguments : List String}
    (h : Written items arguments) (switch : Switch) :
    switch.name ∈ arguments ↔ Item.switch switch ∈ items := by
  have hname := ofText_switch switch
  induction h with
  | nothing => simp
  | separator => cases switch <;> simp [Switch.name]
  | joined setting value h ih =>
    have hne : switch.name ≠ setting.name ++ "=" ++ value := by
      intro heq
      rw [heq, ofText_joined] at hname
      simp at hname
    simp [hne, ih]
  | apart setting hvalue h ih =>
    rename_i value
    have hne : switch.name ≠ value := by
      intro heq
      rw [heq, ofText_value hvalue] at hname
      cases hname
    have hsetting : switch.name ≠ setting.name := by
      cases switch <;> cases setting <;> decide
    simp [hne, hsetting, ih]
  | switch other h ih =>
    have hinj : switch.name = other.name ↔ switch = other := by
      cases switch <;> cases other <;> decide
    simp [hinj, ih]

theorem Setting.name_inj {setting other : Setting} :
    setting.name = other.name ↔ setting = other := by
  cases setting <;> cases other <;> decide

/-- A setting joined to its value is an option wherever it stands. -/
private theorem Written.mem_of_joined {items : List Item} {arguments : List String}
    (h : Written items arguments) {setting : Setting} {value : String}
    (hmem : setting.name ++ "=" ++ value ∈ arguments) : .setting setting value ∈ items := by
  have hform := ofText_joined setting value
  induction h with
  | nothing => cases hmem
  | separator =>
    rw [List.mem_singleton.mp hmem] at hform
    cases hform
  | joined other v h ih =>
    rcases List.mem_cons.mp hmem with heq | hmem
    · rw [heq, ofText_joined, Argument.long.injEq, Setting.name_inj, Option.some.injEq] at hform
      obtain ⟨rfl, rfl⟩ := hform
      exact List.mem_cons_self
    · exact List.mem_cons_of_mem _ (ih hmem)
  | apart other hvalue h ih =>
    rcases List.mem_cons.mp hmem with heq | hmem
    · rw [heq, ofText_setting] at hform
      simp at hform
    · rcases List.mem_cons.mp hmem with heq | hmem
      · rw [heq, ofText_value hvalue] at hform
        cases hform
      · exact List.mem_cons_of_mem _ (ih hmem)
  | switch switch h ih =>
    rcases List.mem_cons.mp hmem with heq | hmem
    · rw [heq, ofText_switch] at hform
      simp at hform
    · exact List.mem_cons_of_mem _ (ih hmem)

/-- A setting has the argument after it as its value. -/
private theorem Written.mem_of_apart {items : List Item} {arguments : List String}
    (h : Written items arguments) {setting : Setting} {value : String}
    (hmem : [setting.name, value] <:+: arguments) : .setting setting value ∈ items := by
  have hform := ofText_setting setting
  induction h with
  | nothing => simp at hmem
  | separator => simp [List.infix_cons_iff] at hmem
  | joined other v h ih =>
    rcases List.infix_cons_iff.mp hmem with hhead | hmem
    · rw [(List.cons_prefix_cons.mp hhead).1, ofText_joined] at hform
      simp at hform
    · exact List.mem_cons_of_mem _ (ih hmem)
  | apart other hvalue h ih =>
    rcases List.infix_cons_iff.mp hmem with hhead | hmem
    · obtain ⟨hname, hhead⟩ := List.cons_prefix_cons.mp hhead
      obtain ⟨rfl, _⟩ := List.cons_prefix_cons.mp hhead
      rw [Setting.name_inj.mp hname]
      exact List.mem_cons_self
    · rcases List.infix_cons_iff.mp hmem with hhead | hmem
      · rw [(List.cons_prefix_cons.mp hhead).1, ofText_value hvalue] at hform
        cases hform
      · exact List.mem_cons_of_mem _ (ih hmem)
  | switch switch h ih =>
    rcases List.infix_cons_iff.mp hmem with hhead | hmem
    · have hname := (List.cons_prefix_cons.mp hhead).1
      have hne : setting.name ≠ switch.name := by cases setting <;> cases switch <;> decide
      exact absurd hname hne
    · exact List.mem_cons_of_mem _ (ih hmem)

/-- Every option of a run was taken at some point. -/
private theorem Completes.exists_take {g : Given} {items : List Item} {o : Options}
    (h : Completes g items o) {item : Item} (hmem : item ∈ items) :
    ∃ g g' : Given, g.take item = .ok g' := by
  induction items generalizing g with
  | nil => cases hmem
  | cons first rest ih =>
    obtain ⟨g', htake, h⟩ := completes_cons_iff.mp h
    rcases List.mem_cons.mp hmem with rfl | hmem
    · exact ⟨g, g', htake⟩
    · exact ih h hmem

/-- A run has no test with an unknown name. -/
theorem ofName?_ne_none_of_parse {arguments : List String} {o : Options}
    (h : parse arguments = .ok (.run o)) {name : String}
    (hmem : "--test=" ++ name ∈ arguments ∨ ["--test", name] <:+: arguments) :
    TestKind.ofName? name ≠ none := by
  obtain ⟨items, hw, ho⟩ := parse_eq_run_iff.mp h
  have hitem : .setting .test name ∈ items := by
    rcases hmem with hmem | hmem
    · exact hw.mem_of_joined hmem
    · exact hw.mem_of_apart hmem
  obtain ⟨g, g', htake⟩ := ho.exists_take hitem
  intro hnone
  obtain ⟨_, hassign⟩ := Given.set_eq_ok_iff.mp htake
  obtain ⟨test, htest, _⟩ := map_eq_ok_iff.mp hassign
  rw [Given.testOf, hnone] at htest
  cases htest

end LspProbe.CommandLine
