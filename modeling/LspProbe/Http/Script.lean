import LspProbe.Http.Message
import LspProbe.Json.Reader

/-!
# Written scripts

A script as text: one JSON object a line says what the server does with a request.
-/

namespace LspProbe.Http

/-- A natural number under a key. -/
def natOf? (j : Json) (key : String) : Option Nat :=
  match j.get? key with
  | some (.num (.int i)) => if 0 ≤ i then some i.toNat else none
  | _ => none

/-- A text under a key. -/
def textOf? (j : Json) (key : String) : Option String := (j.get? key).bind Json.asString?

/-- The reply that a JSON object describes: a fault by name, or an answer whose fields default to
an empty answer with status 200. -/
def Reply.ofJson (j : Json) : Reply :=
  match textOf? j "fault" with
  | some "hang" => .hang
  | some "close" => .close
  | some "garbage" => .garbage
  | _ =>
    .answer
      { status := (natOf? j "status").getD 200
        reason := (textOf? j "reason").getD ""
        location := textOf? j "location"
        contentType := textOf? j "content_type"
        body := Utf8.encode ((textOf? j "body").getD "")
        missing := (natOf? j "missing").getD 0 }

/-- The reply on a line; a line that is no JSON is the body of an answer. -/
def Reply.ofLine (line : String) : Reply :=
  match Json.parse (Utf8.encode line) with
  | .ok j => .ofJson j
  | .error _ => .answer ⟨200, "", none, none, Utf8.encode line, 0⟩

end LspProbe.Http
