import LspProbe.Json.Basic

/-!
# Locations

The body of a reply to a definition or references query. The body is kept as it came; the
locations are read from it one by one, so an odd entry hides nothing but itself.
-/

namespace LspProbe

/-- One location. A field that is missing or has the wrong type is absent. -/
structure Location where
  uri : Option String
  range : Option Json

structure Locations where
  body : Json

namespace Location

def ofEntry (entry : Json) : Location :=
  ⟨(entry.get? "uri").bind Json.asString?, entry.get? "range"⟩

def same (a b : Location) : Bool := a.uri == b.uri && Json.sameOption a.range b.range

end Location

namespace Locations

/-- One location per entry of a list; any other body has none. -/
def items (l : Locations) : List Location :=
  match l.body.asList? with
  | some entries => entries.map Location.ofEntry
  | none => []

def isEmpty (l : Locations) : Bool :=
  match l.body.asList? with
  | some entries => entries.isEmpty
  | none => true

def same (a b : Locations) : Bool := a.body.same b.body

/-- Whether two lists of locations agree one by one. -/
def sameItems : List Location → List Location → Bool
  | [], [] => true
  | a :: as, b :: bs => a.same b && sameItems as bs
  | _, _ => false

end Locations

end LspProbe
