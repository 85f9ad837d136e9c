/-!
# Kinds of query

The three questions a language server answers about a place in a file.
-/

namespace LspProbe

inductive QueryKind where
  | definition
  | references
  | signature
  deriving DecidableEq, Repr

namespace QueryKind

/-- The name a query has in reports. -/
def name : QueryKind → String
  | .definition => "definition"
  | .references => "references"
  | .signature => "signature"

/-- The path that answers a query. -/
def endpoint (k : QueryKind) : String := "/" ++ k.name

/-- All kinds, in the order in which they are asked. -/
def all : List QueryKind := [.definition, .references, .signature]

theorem name_inj {k l : QueryKind} : k.name = l.name ↔ k = l := by
  cases k <;> cases l <;> simp [name]

end QueryKind

end LspProbe
