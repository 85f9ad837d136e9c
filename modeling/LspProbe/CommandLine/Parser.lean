import LspProbe.CommandLine.Basic

/-!
# Reading the command line

Arguments are read from left to right. A setting whose value is a separate argument stays open
until the next option or the end, and only then is its value read; an argument that is no option
at all is refused before that.
-/

namespace LspProbe.CommandLine

/-- An argument by its form. -/
inductive Argument where
  | separator
  | long (name : String) (value : Option String)
  | short (letter : Char)
  | plain (text : String)
  deriving DecidableEq, Repr

/-- A long option is split at its first equals sign; of a cluster only the first letter counts. -/
def Argument.ofText (s : String) : Argument :=
  match s.toList with
  | ['-', '-'] => .separator
  | '-' :: '-' :: rest =>
    let name := String.ofList ('-' :: '-' :: rest.takeWhile (· ≠ '='))
    match rest.dropWhile (· ≠ '=') with
    | _ :: value => .long name (some (String.ofList value))
    | [] => .long name none
  | '-' :: letter :: _ => .short letter
  | _ => .plain s

/-- The setting that waits for its value to be given or read. -/
inductive Open where
  | nothing
  | waiting (setting : Setting)
  | filled (setting : Setting) (value : String)
  deriving DecidableEq, Repr

structure State where
  given : Given
  pending : Open

/-- Closes what is open. -/
def State.settle (s : State) : Except UsageError Given :=
  match s.pending with
  | .nothing => .ok s.given
  | .waiting setting => .error (.missingValue setting)
  | .filled setting value => s.given.set setting value

/-- What the command line asks for. -/
inductive Command where
  | run (options : Options)
  | notice (n : Notice)
  deriving DecidableEq, Repr

/-- One step: either the reading goes on, or a notice ends it. -/
abbrev Step := Except UsageError (State ⊕ Notice)

def goOn (given : Given) (pending : Open) : Step := .ok (.inl ⟨given, pending⟩)

/-- Takes a long option. -/
def State.long (s : State) (name : String) (value : Option String) : Step :=
  match Setting.all.find? (·.name = name), Switch.all.find? (·.name = name),
    Notice.all.find? (·.name = name), value with
  | some setting, _, _, none => do goOn (← s.settle) (.waiting setting)
  | some setting, _, _, some v => do goOn (← (← s.settle).set setting v) .nothing
  | none, some switch, _, none => do goOn (← (← s.settle).turnOn switch) .nothing
  | none, none, some notice, none => do
    let _ ← s.settle
    .ok (.inr notice)
  | none, none, none, _ => .error (.unexpectedArgument name)
  | none, _, _, some v => .error (.unexpectedValue v name)

/-- Takes a short option. -/
def State.short (s : State) (letter : Char) : Step :=
  if letter = 'h' then do
    let _ ← s.settle
    .ok (.inr .help)
  else if letter = 'V' then do
    let _ ← s.settle
    .ok (.inr .version)
  else .error (.unexpectedArgument (String.ofList ['-', letter]))

/-- Takes an argument that is no option: a value if one is waited for. -/
def State.plain (s : State) (text : String) : Step :=
  match s.pending with
  | .waiting setting => goOn s.given (.filled setting text)
  | _ => .error (.unexpectedArgument text)

/-- The end of the arguments. -/
def State.finish (s : State) : Except UsageError Command := do
  let given ← s.settle
  let options ← given.complete
  .ok (.run options)

/-- Reads arguments. After a separator every argument is refused. -/
def State.read (s : State) : List String → Except UsageError Command
  | [] => s.finish
  | argument :: rest =>
    let step :=
      match Argument.ofText argument with
      | .separator => none
      | .long name value => some (s.long name value)
      | .short letter => some (s.short letter)
      | .plain text => some (s.plain text)
    match step, rest with
    | none, [] => s.finish
    | none, next :: _ => .error (.unexpectedArgument next)
    | some (.error e), _ => .error e
    | some (.ok (.inr notice)), _ => .ok (.notice notice)
    | some (.ok (.inl s)), rest => s.read rest

/-- What a command line asks for. -/
def parse (arguments : List String) : Except UsageError Command :=
  State.read ⟨{ }, .nothing⟩ arguments

end LspProbe.CommandLine
