import LspProbe.Client.Config
import LspProbe.Http.Exchange
import LspProbe.Json.Reader
import LspProbe.Log
import LspProbe.Query.Basic
import LspProbe.Report.Execution

/-!
# The client

Each query is one exchange, classified into an outcome: a failed exchange, an error status and a
body that is not JSON are failures, everything else is a success.
-/

namespace LspProbe

/-- Where queries go: how the client is configured and where connections lead. -/
structure Client where
  config : Config
  network : Http.Network

/-- What asking came to: a result, the requests sent, the notes taken, and the replies left. -/
structure Asked (α : Type) where
  result : α
  requests : List Http.Request
  log : List Log.Entry
  left : Http.Script

def Asked.map {α β : Type} (f : α → β) (a : Asked α) : Asked β :=
  ⟨f a.result, a.requests, a.log, a.left⟩

namespace Client

/-- The data of a final answer, which is its whole body read as JSON. -/
def dataOf (r : Http.Received) : Except Http.Failure Json :=
  if Http.Failure.isError r.status then .error (.errorStatus r.status r.reason r.url)
  else if r.complete then
    match Json.parse r.body with
    | .ok data => .ok data
    | .error fault => .error (.badBody fault r.body)
  else .error .cutShort

/-- The status and data that an exchange brought. -/
def read (r : Except Http.Failure Http.Received) : Except Http.Failure (Nat × Json) := do
  let received ← r
  let data ← dataOf received
  .ok (received.status, data)

def outcomeOf : Except Http.Failure (Nat × Json) → Outcome Json
  | .ok (status, data) => .succeeded data status
  | .error failure => .failed failure.message failure.statusCode?

/-- The part of the program that takes notes on queries. -/
def logSource : String := "arkts_lsp_tester::client"

def sentEntry (address : String) : Log.Entry := ⟨.debug, logSource, "POST " ++ address⟩

/-- The note on how a query ended. -/
def endEntry (kind : QueryKind) : Except Http.Failure (Nat × Json) → Log.Entry
  | .ok (status, _) =>
    ⟨.debug, logSource, kind.name ++ " answered " ++ toString status ++ " " ++ Http.phrase status⟩
  | .error failure => ⟨.warn, logSource, kind.name ++ " request failed: " ++ failure.message⟩

/-- Asks one query. -/
def ask (c : Client) (q : Query) (script : Http.Script) : Asked (Outcome Json) :=
  let address := c.config.endpointOf q.kind
  let play := Http.exchange c.network address q.body script
  let answer := read play.result
  ⟨outcomeOf answer, play.requests, [sentEntry address, endEntry q.kind answer], play.left⟩

def findDefinition (c : Client) (p : Position) (script : Http.Script) : Asked (Outcome Locations) :=
  (c.ask (.definition p) script).map (.map Locations.mk)

def findReferences (c : Client) (p : Position) (includeDeclaration : Bool) (script : Http.Script) :
    Asked (Outcome Locations) :=
  (c.ask (.references p includeDeclaration) script).map (.map Locations.mk)

def signatureHelp (c : Client) (p : Position) (script : Http.Script) :
    Asked (Outcome SignatureReply) :=
  (c.ask (.signature p) script).map (.map SignatureReply.mk)

/-- Asks all three queries, one after the other; declarations are included. -/
def survey (c : Client) (p : Position) (script : Http.Script) : Asked Survey :=
  let definition := c.findDefinition p script
  let references := c.findReferences p true definition.left
  let signature := c.signatureHelp p references.left
  ⟨⟨definition.result, references.result, signature.result⟩,
    definition.requests ++ references.requests ++ signature.requests,
    definition.log ++ references.log ++ signature.log, signature.left⟩

/-- Runs a test. Only a references query heeds `includeDeclaration`. -/
def run (c : Client) (test : TestKind) (target : Target) (includeDeclaration : Bool)
    (script : Http.Script) : Asked Execution :=
  match test with
  | .single .definition =>
    (c.findDefinition target.position script).map (.single .definition <| .locations ·)
  | .single .references =>
    (c.findReferences target.position includeDeclaration script).map
      (.single .references <| .locations ·)
  | .single .signature =>
    (c.signatureHelp target.position script).map (.single .signature <| .signature ·)
  | .all => (c.survey target.position script).map .all

end Client

end LspProbe
