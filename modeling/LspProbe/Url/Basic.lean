import LspProbe.Url.Host

/-!
# URLs

A URL in parts, each already written the way it is sent, and its text.
-/

namespace LspProbe

namespace Url

/-- Everything between `//` and the path. -/
structure Authority where
  user : String
  password : Option String
  host : Host
  port : Option Nat
  deriving DecidableEq, Repr

/-- A path of segments, or a text that has no structure. -/
inductive Path where
  | segments (names : List String)
  | plain (text : String)
  deriving DecidableEq, Repr

end Url

structure Url where
  scheme : String
  authority : Option Url.Authority
  path : Url.Path
  query : Option String
  fragment : Option String
  deriving DecidableEq, Repr

namespace Url

/-- The port that a scheme stands for. -/
def defaultPort? (scheme : String) : Option Nat :=
  if scheme = "http" ∨ scheme = "ws" then some 80
  else if scheme = "https" ∨ scheme = "wss" then some 443
  else if scheme = "ftp" then some 21
  else none

/-- Schemes with rules of their own for hosts and paths. -/
def isSpecial (scheme : String) : Bool := (defaultPort? scheme).isSome || scheme = "file"

/-- A slash before every segment. -/
def segmentsText (names : List String) : String :=
  String.ofList (names.flatMap fun name => '/' :: name.toList)

def Path.text : Path → String
  | .segments names => segmentsText names
  | .plain text => text

def Authority.credentials (a : Authority) : String :=
  match a.user, a.password with
  | "", none => ""
  | user, none => user ++ "@"
  | user, some password => user ++ ":" ++ password ++ "@"

/-- The host and the port, unless it is the default one. -/
def Authority.hostText (a : Authority) : String :=
  a.host.text ++
    match a.port with
    | some port => ":" ++ toString port
    | none => ""

/-- Without an authority, a path that starts with two slashes is kept apart by a dot. -/
def authorityText (u : Url) : String :=
  match u.authority, u.path with
  | some a, _ => "//" ++ a.credentials ++ a.hostText
  | none, .segments ("" :: _ :: _) => "/."
  | none, _ => ""

def queryText (query : Option String) : String :=
  match query with
  | some q => "?" ++ q
  | none => ""

def fragmentText (fragment : Option String) : String :=
  match fragment with
  | some f => "#" ++ f
  | none => ""

/-- The URL as text. -/
def text (u : Url) : String :=
  u.scheme ++ ":" ++ u.authorityText ++ u.path.text ++ queryText u.query ++ fragmentText u.fragment

/-- Whether percent signs in a text stand for the bytes of a text. -/
def decodes (s : String) : Bool := (Utf8.text (percentDecode (Utf8.encode s))).isOk

/-- Whether user and password can be sent apart from the URL. -/
def Authority.isSeparable (a : Authority) : Bool :=
  decodes a.user && (a.user ≠ "" || (a.password.map decodes).getD false)

/-- The authority without user and password if they can be sent apart from it. -/
def Authority.withoutCredentials (a : Authority) : Authority :=
  if a.isSeparable then { a with user := "", password := none } else a

/-- The URL without user and password if they can be sent apart from it. -/
def withoutCredentials (u : Url) : Url :=
  { u with authority := u.authority.map Authority.withoutCredentials }

/-- The port to connect to. -/
def port? (u : Url) : Option Nat :=
  match u.authority with
  | some a => a.port.or (defaultPort? u.scheme)
  | none => none

/-- The path and query that a request asks for. -/
def target (u : Url) : String := u.path.text ++ queryText u.query

/-- Whether requests can be made to it. -/
def isHttp (u : Url) : Bool := u.scheme = "http" || u.scheme = "https"

end Url

end LspProbe
