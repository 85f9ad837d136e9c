import LspProbe.Http.Message
import LspProbe.Json.Fault

/-!
# Failed exchanges

Why a query brought no data. Only an error status leaves a status code.
-/

namespace LspProbe.Http

/-- Why there is no connection, as the system tells it: in printable ASCII. -/
structure Obstacle where
  cause : String
  isPrintable : cause.toList.all (fun c => 0x20 ≤ c.toNat && c.toNat < 0x7F) = true
  deriving DecidableEq, Repr

namespace Obstacle

/-- Nobody listens at the port. -/
def refused : Obstacle := ⟨"tcp connect error: Connection refused (os error 111)", by decide⟩

/-- No way leads to the address. -/
def unreachable : Obstacle :=
  ⟨"tcp connect error: Network is unreachable (os error 101)", by decide⟩

/-- There is nobody to ask for the address of a name. -/
def unresolved : Obstacle :=
  ⟨"dns error: failed to lookup address information: Temporary failure in name resolution",
    by decide⟩

/-- Somebody listens, but does not speak in secret. -/
def unsecured : Obstacle :=
  ⟨"received corrupt message of type InvalidContentType", by decide⟩

end Obstacle

inductive Failure where
  | badUrl (flaw : Url.Flaw)
  | badScheme (url : String)
  | noAddress (url : String)
  | badName (url : String)
  | barred (url : String) (obstacle : Obstacle)
  | timedOut (url : String)
  | closed (url : String)
  | garbled (url : String)
  | badHead (url : String) (flaw : HeadFlaw)
  | tooManyRedirects (url : String)
  | errorStatus (status : Nat) (reason url : String)
  | cutShort
  | badBody (fault : Json.Fault) (body : List UInt8)
  deriving DecidableEq, Repr

namespace Failure

/-- Whether a status is an error: of the client below 500, of the server from there on. -/
def isError (status : Nat) : Bool := 400 ≤ status && status < 600

def building (url cause : String) : String := "builder error for url (" ++ url ++ "): " ++ cause

def sending (url cause : String) : String :=
  "error sending request for url (" ++ url ++ "): " ++ cause

def connecting (url cause : String) : String := sending url ("client error (Connect): " ++ cause)

def exchanging (url cause : String) : String :=
  sending url ("client error (SendRequest): " ++ cause)

/-- A character of a reason as it is shown. -/
def reasonChar (c : Char) : List Char :=
  if c = '\t' then ['\\', 't'] else if c = '"' ∨ c = '\\' then ['\\', c] else [c]

def reasonText (reason : String) : String := String.ofList (reason.toList.flatMap reasonChar)

def decoding (cause : String) : String := "error decoding response body: " ++ cause

def message : Failure → String
  | .badUrl flaw => "builder error: " ++ flaw.message
  | .badScheme url => building url "URL scheme is not allowed"
  | .noAddress url => building url "Parsed Url is not a valid Uri"
  | .badName url => connecting url "invalid dns name"
  | .barred url obstacle => connecting url obstacle.cause
  | .timedOut url => sending url "operation timed out"
  | .closed url | .badHead url .absent =>
    exchanging url "connection closed before message completed"
  | .garbled url | .badHead url .version => exchanging url "invalid HTTP version parsed"
  | .badHead url .status => exchanging url "invalid HTTP status-code parsed"
  | .badHead url .header => exchanging url "invalid HTTP header parsed"
  | .tooManyRedirects url =>
    "error following redirect for url (" ++ url ++ "): too many redirects"
  | .errorStatus status reason url =>
    "HTTP status " ++ (if status < 500 then "client" else "server") ++ " error ("
      ++ toString status ++ " " ++ reasonText reason ++ ") for url (" ++ url ++ ")"
  | .cutShort =>
    decoding ("request or response body error: error reading a body from connection: "
      ++ "end of file before message length reached")
  | .badBody fault body => decoding (fault.message body)

/-- The status code that a failure reports. -/
def statusCode? : Failure → Option Nat
  | .errorStatus status _ _ => some status
  | _ => none

end Failure

end LspProbe.Http
