import LspProbe.Url.Address

/-!
# HTTP messages

A request as the server receives it, and what the server may do with it.
-/

namespace LspProbe.Http

inductive Method where
  | post
  | get
  deriving DecidableEq, Repr

def Method.name : Method → String
  | .post => "POST"
  | .get => "GET"

structure Request where
  method : Method
  target : String
  contentType : Option String
  userAgent : String
  body : String
  deriving DecidableEq, Repr

/-- An answer; `missing` bytes are announced but never sent. -/
structure Answer where
  status : Nat
  reason : String
  location : Option String
  contentType : Option String
  body : List UInt8
  missing : Nat
  deriving DecidableEq, Repr

/-- What the server does with a request: it answers, never answers, closes the connection or
sends something else than HTTP. A client meets silence only with a limit set, which then ends the
wait. -/
inductive Reply where
  | answer (a : Answer)
  | hang
  | close
  | garbage
  deriving DecidableEq, Repr

/-- Replies to come, one per request. -/
abbrev Script := List Reply

/-- The reply of a server whose script is used up. -/
def Reply.exhausted : Reply := .answer ⟨599, "No Reply Left", none, none, [], 0⟩

/-- The reply to the next request, and those left for later ones. -/
def Script.next : Script → Reply × Script
  | [] => (.exhausted, [])
  | reply :: left => (reply, left)

/-- Statuses that send the client elsewhere. -/
def redirects (status : Nat) : Bool := [301, 302, 303, 307, 308].contains status

/-- Statuses after which the next request repeats method and body. -/
def repeats (status : Nat) : Bool := [307, 308].contains status

/-- Statuses that never come with a body. -/
def isBodiless (status : Nat) : Bool := [101, 204, 304].contains status

/-- Statuses that only announce another answer on the same connection. -/
def isInterim (status : Nat) : Bool := 100 ≤ status && status < 200 && status ≠ 101

/-- What is wrong with the head of an answer: the line of its status, a header, or that after an
announcement something else follows or nothing at all. -/
inductive HeadFlaw where
  | status
  | header
  | version
  | absent
  deriving DecidableEq, Repr

/-- Whether a character may stand in the head of an answer: no control but the tab. -/
def isHeadChar (c : Char) : Bool := c = '\t' || (0x20 ≤ c.toNat && c.toNat ≠ 0x7F)

def isHeadText (s : String) : Bool := s.toList.all isHeadChar

/-- Whether a number has the three digits of a status. -/
def isStatus (n : Nat) : Bool := 100 ≤ n && n ≤ 999

/-- The part of a reason that stands on the line of the status. -/
def statusLine : List Char → List Char
  | [] => []
  | '\n' :: _ => []
  | '\r' :: '\n' :: _ => []
  | c :: rest => c :: statusLine rest

def isLineEnd (b : UInt8) : Bool := b = 0x0A || b = 0x0D

/-- The first flaw in the head of an answer. What follows a line end in the reason counts as a
header, and is none. -/
def Answer.flaw? (a : Answer) : Option HeadFlaw :=
  if !isStatus a.status || !(statusLine a.reason.toList).all isHeadChar then some .status
  else if !([a.reason] ++ a.location.toList ++ a.contentType.toList).all isHeadText then
    some .header
  else if isInterim a.status then some (if a.body.all isLineEnd then .absent else .version)
  else none

/-- The reason as it is understood: one that is not all ASCII is lost. -/
def Answer.knownReason (a : Answer) : String :=
  if a.reason.toList.all (·.toNat < 0x80) then a.reason else ""

def isHeaderBlank (c : Char) : Bool := c = ' ' || c = '\t'

/-- The value of a header: blanks around it do not count. -/
def headerValue (s : String) : String :=
  String.ofList
    ((s.toList.dropWhile isHeaderBlank).reverse.dropWhile isHeaderBlank).reverse

/-- The URL that a location stands for, seen from another; none if it is no address. -/
def follow? (url : Url) (location : String) : Option Url :=
  match url.join (headerValue location) with
  | .ok next => if next.isAddress then some next.addressed else none
  | .error _ => none

/-- The URL to ask next, if an answer to a request for `url` is a redirect. -/
def Answer.redirect? (a : Answer) (url : Url) : Option Url :=
  if redirects a.status then a.location.bind (follow? url) else none

/-- The request that follows a redirect. -/
def Request.redirected (r : Request) (status : Nat) (next : Url) : Request :=
  if repeats status then { r with target := next.target }
  else { r with method := .get, target := next.target, contentType := none, body := "" }

/-- The standard phrase of a status that does not count as an error. -/
def phrase (status : Nat) : String :=
  match status with
  | 200 => "OK"
  | 201 => "Created"
  | 202 => "Accepted"
  | 203 => "Non Authoritative Information"
  | 204 => "No Content"
  | 205 => "Reset Content"
  | 206 => "Partial Content"
  | 207 => "Multi-Status"
  | 208 => "Already Reported"
  | 226 => "IM Used"
  | 300 => "Multiple Choices"
  | 301 => "Moved Permanently"
  | 302 => "Found"
  | 303 => "See Other"
  | 304 => "Not Modified"
  | 305 => "Use Proxy"
  | 307 => "Temporary Redirect"
  | 308 => "Permanent Redirect"
  | _ => "<unknown status code>"

end LspProbe.Http
