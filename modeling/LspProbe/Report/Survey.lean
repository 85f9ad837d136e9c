import LspProbe.Report.Text

/-!
# Surveys

The outcomes of all three queries about one place.
-/

namespace LspProbe

structure Survey where
  definition : Outcome Locations
  references : Outcome Locations
  signature : Outcome SignatureReply

namespace Survey

/-- Each query with its success, in the order in which they were asked. -/
def entries (s : Survey) : List (QueryKind × Bool) :=
  [(.definition, s.definition.success), (.references, s.references.success),
    (.signature, s.signature.success)]

def successCount (s : Survey) : Nat := (s.entries.filter (·.2)).length

def total (s : Survey) : Nat := s.entries.length

/-- The record of each query under its name. -/
def toJson (s : Survey) : Json :=
  .obj [("definition", (s.definition.map Locations.body).toJson),
    ("references", (s.references.map Locations.body).toJson),
    ("signature", (s.signature.map SignatureReply.body).toJson)]

def markLine (entry : QueryKind × Bool) : String :=
  "  " ++ entry.1.name ++ ": " ++ if entry.2 then "ok" else "FAILED"

/-- The closing lines: how many queries succeeded, and which. -/
def summary (s : Survey) : String :=
  Report.joinLines
    ("Summary:" :: ("Succeeded: " ++ toString s.successCount ++ "/" ++ toString s.total)
      :: s.entries.map markLine)

end Survey

end LspProbe
