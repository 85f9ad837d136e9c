import LspProbe.Query.Kind
import LspProbe.Query.Position

/-!
# Queries

A question about a position, and the body it is sent as.
-/

namespace LspProbe

inductive Query where
  | definition (position : Position)
  | references (position : Position) (includeDeclaration : Bool)
  | signature (position : Position)
  deriving DecidableEq, Repr

namespace Query

/-- The query of a kind. References include declarations until told otherwise. -/
def ofKind (k : QueryKind) (p : Position) : Query :=
  match k with
  | .definition => .definition p
  | .references => .references p true
  | .signature => .signature p

def kind : Query → QueryKind
  | .definition _ => .definition
  | .references _ _ => .references
  | .signature _ => .signature

def position : Query → Position
  | .definition p => p
  | .references p _ => p
  | .signature p => p

/-- Sets whether declarations are included; only a references query asks for them. -/
def includingDeclaration (q : Query) (b : Bool) : Query :=
  match q with
  | .references p _ => .references p b
  | q => q

/-- The members sent: those of the position, and the flag of a references query. -/
def members : Query → Json.Members
  | .references p b => p.members ++ [("includeDeclaration", .bool b)]
  | q => q.position.members

/-- The body sent. -/
def body (q : Query) : String := (Json.obj q.members).compact

@[simp] theorem position_ofKind (k : QueryKind) (p : Position) : (ofKind k p).position = p := by
  cases k <;> rfl

end Query

end LspProbe
