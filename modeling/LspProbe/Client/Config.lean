import LspProbe.Query.Kind

/-!
# Client configuration

Where the server is and how long a request may take.
-/

namespace LspProbe

structure Config where
  baseUrl : String
  /-- The limit of a request in milliseconds; none leaves it without a limit. -/
  timeout : Option Nat
  deriving DecidableEq, Repr

namespace Config

def defaultBaseUrl : String := "http://localhost:3000"

def defaultTimeoutSecs : Nat := 30

/-- A limit in seconds; zero stands for no limit. -/
def timeoutOfSecs (secs : Nat) : Option Nat := if secs = 0 then none else some (secs * 1000)

def standard : Config := ⟨defaultBaseUrl, timeoutOfSecs defaultTimeoutSecs⟩

/-- A text without its last character if that is a slash. -/
def dropSlash (s : String) : String :=
  if s.toList.getLast? = some '/' then String.ofList s.toList.dropLast else s

/-- The full URL of a path: one slash at the end of the base is left out. -/
def endpoint (c : Config) (path : String) : String := dropSlash c.baseUrl ++ path

/-- The full URL of a query. -/
def endpointOf (c : Config) (kind : QueryKind) : String := c.endpoint kind.endpoint

end Config

end LspProbe
