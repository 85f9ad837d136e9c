import LspProbe.Query.Position
import LspProbe.Report.Survey

/-!
# Executions

What a run of the chosen test produced, how it is printed, and whether it counts as a failure.
-/

namespace LspProbe

/-- The test to run: one query, or all of them. -/
inductive TestKind where
  | single (kind : QueryKind)
  | all
  deriving DecidableEq, Repr

/-- Where to point the queries. -/
structure Target where
  file : String
  line : UInt32
  character : UInt32
  deriving DecidableEq, Repr

/-- The outcome of one query, by the shape of its reply. -/
inductive SingleRun where
  | locations (outcome : Outcome Locations)
  | signature (outcome : Outcome SignatureReply)

inductive Execution where
  | single (kind : QueryKind) (run : SingleRun)
  | all (survey : Survey)

namespace TestKind

def values : List TestKind := [.single .definition, .single .references, .single .signature, .all]

def name : TestKind → String
  | .single kind => kind.name
  | .all => "all"

/-- The test with a name. -/
def ofName? (name : String) : Option TestKind := values.find? (·.name = name)

/-- A capital letter of the alphabet made small. -/
def foldCase (s : String) : String := String.ofList (s.toList.map Char.toLower)

/-- The test with a name, in whatever case its letters are. -/
def ofNameAnyCase? (name : String) : Option TestKind :=
  values.find? (·.name = foldCase name)

/-- The title of a test in log lines. -/
def title : TestKind → String
  | .single .definition => "Definition"
  | .single .references => "References"
  | .single .signature => "Signature"
  | .all => "All"

end TestKind

namespace Target

def position (t : Target) : Position := .ofFile t.file t.line t.character

/-- The banner of a query about this target, then its body. -/
def withBanner (t : Target) (kind : QueryKind) (includeDeclaration : Option Bool) (body : String) :
    String :=
  Report.banner kind t.file t.line t.character includeDeclaration ++ "\n" ++ body

end Target

namespace SingleRun

def success : SingleRun → Bool
  | .locations o => o.success
  | .signature o => o.success

def toJson : SingleRun → Json
  | .locations o => (o.map Locations.body).toJson
  | .signature o => (o.map SignatureReply.body).toJson

def text (kind : QueryKind) : SingleRun → String
  | .locations o => Report.locations kind o
  | .signature o => Report.signature o

end SingleRun

namespace Execution

/-- A single query fails with its outcome. A survey fails only in a strict run, when any of its
queries failed. -/
def isFailure (e : Execution) (strict : Bool) : Bool :=
  match e with
  | .single _ run => !run.success
  | .all survey => strict && survey.successCount < survey.total

/-- The text of an execution. The banner of a references query shows whether declarations were
asked for; a survey always asks for them. -/
def text (e : Execution) (target : Target) (includeDeclaration : Bool) : String :=
  match e with
  | .single kind run =>
    target.withBanner kind (if kind = .references then some includeDeclaration else none)
      (run.text kind)
  | .all survey =>
    String.intercalate "\n\n"
      [target.withBanner .definition none (Report.locations .definition survey.definition),
        target.withBanner .references (some true) (Report.locations .references survey.references),
        target.withBanner .signature none (Report.signature survey.signature),
        survey.summary]

def toJson : Execution → Json
  | .single _ run => run.toJson
  | .all survey => survey.toJson

/-- The records of an execution, one item a line. -/
def json (e : Execution) : String := e.toJson.pretty

end Execution

end LspProbe
