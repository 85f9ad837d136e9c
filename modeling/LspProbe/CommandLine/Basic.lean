import LspProbe.Client.Config
import LspProbe.CommandLine.Numeral
import LspProbe.Report.Execution
import LspProbe.Text.Terminal

/-!
# Options

What may be written on the command line, what it means, and what is said about mistakes.
-/

namespace LspProbe.CommandLine

/-- Options that take a value. -/
inductive Setting where
  | test
  | file
  | line
  | character
  | url
  | timeoutSecs
  deriving DecidableEq, Repr

/-- Options that take none. -/
inductive Switch where
  | includeDeclaration
  | json
  | strict
  deriving DecidableEq, Repr

/-- Options that end the reading of the command line. -/
inductive Notice where
  | help
  | version
  deriving DecidableEq, Repr

def Setting.name : Setting → String
  | .test => "--test"
  | .file => "--file"
  | .line => "--line"
  | .character => "--character"
  | .url => "--url"
  | .timeoutSecs => "--timeout-secs"

/-- A setting as it is shown in messages, with its value in angle brackets. -/
def Setting.shown : Setting → String
  | .test => "--test <TEST>"
  | .file => "--file <FILE>"
  | .line => "--line <LINE>"
  | .character => "--character <CHARACTER>"
  | .url => "--url <URL>"
  | .timeoutSecs => "--timeout-secs <TIMEOUT_SECS>"

def Switch.name : Switch → String
  | .includeDeclaration => "--include-declaration"
  | .json => "--json"
  | .strict => "--strict"

def Notice.name : Notice → String
  | .help => "--help"
  | .version => "--version"

def Setting.all : List Setting := [.test, .file, .line, .character, .url, .timeoutSecs]

def Switch.all : List Switch := [.includeDeclaration, .json, .strict]

def Notice.all : List Notice := [.help, .version]

/-- A mistake on the command line. -/
inductive UsageError where
  | missingSettings (settings : List Setting)
  | missingValue (setting : Setting)
  | unknownTest (name : String)
  | badNumber (setting : Setting) (value : String) (flaw : NumeralFlaw)
  | repeated (shown : String)
  | unexpectedArgument (argument : String)
  | unexpectedValue (value name : String)
  deriving DecidableEq, Repr

namespace UsageError

/-- The line that lists the names a test may have. -/
def testNames : String :=
  "\n  [possible values: " ++ String.intercalate ", " (TestKind.values.map TestKind.name) ++ "]"

/-- What was written, between quotes. Escape sequences in it have no effect. -/
def quote (given : String) : String := "'" ++ Text.Terminal.visible given ++ "'"

def reason : UsageError → String
  | .missingSettings settings =>
    "the following required arguments were not provided:"
      ++ String.join (settings.map fun s => "\n  " ++ s.shown)
  | .missingValue setting =>
    "a value is required for '" ++ setting.shown ++ "' but none was supplied"
      ++ if setting = .test then testNames else ""
  | .unknownTest name =>
    "invalid value " ++ quote name ++ " for '" ++ Setting.test.shown ++ "'" ++ testNames
  | .badNumber setting value flaw =>
    "invalid value " ++ quote value ++ " for '" ++ setting.shown ++ "': " ++ flaw.message
  | .repeated shown => "the argument '" ++ shown ++ "' cannot be used multiple times"
  | .unexpectedArgument argument => "unexpected argument " ++ quote argument ++ " found"
  | .unexpectedValue value name =>
    "unexpected value " ++ quote value ++ " for '" ++ name ++ "' found; no more were expected"

def message (e : UsageError) : String := "error: " ++ e.reason

end UsageError

/-- What has been written so far. -/
structure Given where
  test : Option TestKind := none
  file : Option String := none
  line : Option UInt32 := none
  character : Option UInt32 := none
  url : Option String := none
  timeoutSecs : Option Nat := none
  includeDeclaration : Bool := false
  json : Bool := false
  strict : Bool := false
  deriving DecidableEq, Repr

/-- A complete command line. -/
structure Options where
  test : TestKind
  target : Target
  url : String
  includeDeclaration : Bool
  timeoutSecs : Nat
  json : Bool
  strict : Bool
  deriving DecidableEq, Repr

namespace Given

def has (g : Given) : Setting → Bool
  | .test => g.test.isSome
  | .file => g.file.isSome
  | .line => g.line.isSome
  | .character => g.character.isSome
  | .url => g.url.isSome
  | .timeoutSecs => g.timeoutSecs.isSome

/-- The test with a name; an empty name counts as a missing value. -/
def testOf (name : String) : Except UsageError TestKind :=
  match TestKind.ofName? name with
  | some test => .ok test
  | none => .error (if name = "" then .missingValue .test else .unknownTest name)

/-- A number read for a setting. -/
def numberOf {α : Type} (setting : Setting) (value : String) (n : Except NumeralFlaw α) :
    Except UsageError α :=
  n.mapError (.badNumber setting value)

/-- Reads the value of a setting. -/
def assign (g : Given) (setting : Setting) (value : String) : Except UsageError Given :=
  match setting with
  | .test => (testOf value).map fun test => { g with test := some test }
  | .file => .ok { g with file := some value }
  | .line =>
    (numberOf .line value (coordinate value)).map fun line => { g with line := some line }
  | .character =>
    (numberOf .character value (coordinate value)).map fun character =>
      { g with character := some character }
  | .url => .ok { g with url := some value }
  | .timeoutSecs =>
    (numberOf .timeoutSecs value (unsigned value)).map fun secs =>
      { g with timeoutSecs := some secs }

/-- Takes a setting with its value; each may be given once. -/
def set (g : Given) (setting : Setting) (value : String) : Except UsageError Given :=
  if g.has setting then .error (.repeated setting.shown) else g.assign setting value

def isOn (g : Given) : Switch → Bool
  | .includeDeclaration => g.includeDeclaration
  | .json => g.json
  | .strict => g.strict

/-- Turns a switch on; each may be given once. -/
def turnOn (g : Given) (switch : Switch) : Except UsageError Given :=
  if g.isOn switch then .error (.repeated switch.name)
  else
    match switch with
    | .includeDeclaration => .ok { g with includeDeclaration := true }
    | .json => .ok { g with json := true }
    | .strict => .ok { g with strict := true }

/-- The settings without which nothing can be asked. -/
def required : List Setting := [.file, .line, .character]

/-- Completes what was given by the defaults. -/
def complete (g : Given) : Except UsageError Options :=
  match g.file, g.line, g.character with
  | some file, some line, some character =>
    .ok
      { test := g.test.getD .all, target := ⟨file, line, character⟩,
        url := g.url.getD Config.defaultBaseUrl, includeDeclaration := g.includeDeclaration,
        timeoutSecs := g.timeoutSecs.getD Config.defaultTimeoutSecs, json := g.json,
        strict := g.strict }
  | _, _, _ => .error (.missingSettings (required.filter (!g.has ·)))

end Given

/-- The client configuration that the options ask for. -/
def Options.config (o : Options) : Config := ⟨o.url, Config.timeoutOfSecs o.timeoutSecs⟩

end LspProbe.CommandLine
