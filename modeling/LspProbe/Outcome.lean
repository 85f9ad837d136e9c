import LspProbe.Json.Basic

/-!
# Outcomes

The uniform record of one query: every query ends in one of these, never in an exception.
-/

namespace LspProbe

/-- What came of a query. The fields are independent of each other. -/
structure Outcome (α : Type) where
  success : Bool
  data : Option α := none
  statusCode : Option Nat := none
  error : Option String := none

namespace Outcome

variable {α β : Type}

def succeeded (data : α) (statusCode : Nat) : Outcome α :=
  { success := true, data := some data, statusCode := some statusCode }

/-- A failure has a status code only if the server answered with an error status. -/
def failed (error : String) (statusCode : Option Nat) : Outcome α :=
  { success := false, statusCode, error := some error }

/-- The same outcome with another view of the data. -/
def map (f : α → β) (o : Outcome α) : Outcome β :=
  { success := o.success, data := o.data.map f, statusCode := o.statusCode, error := o.error }

@[simp] theorem data_map (f : α → β) (o : Outcome α) : (o.map f).data = o.data.map f := rfl

/-- Viewing data and going back leaves an outcome as it is. -/
theorem map_map_of_inverse {f : α → β} {g : β → α} {o : Outcome α}
    (h : ∀ a ∈ o.data, g (f a) = a) : (o.map f).map g = o := by
  obtain ⟨success, data, statusCode, error⟩ := o
  cases data with
  | none => rfl
  | some a => simp only [map, Option.map_some, h a rfl]

/-- A member that is written only if there is a value. -/
def optional (key : String) (value : Option Json) : Json.Members :=
  match value with
  | some v => [(key, v)]
  | none => []

/-- The members of the record; what is absent is left out. -/
def members (o : Outcome Json) : Json.Members :=
  [("success", .bool o.success)] ++ optional "data" o.data
    ++ optional "statusCode" (o.statusCode.map Json.nat) ++ optional "error" (o.error.map Json.str)

def toJson (o : Outcome Json) : Json := .obj o.members

end Outcome

end LspProbe
