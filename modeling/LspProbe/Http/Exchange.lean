import LspProbe.Http.Network

/-!
# Exchanges

One request and everything it leads to: redirects are followed, up to ten of them, until an answer
is final or something goes wrong. The server plays a script, one reply for each request.
-/

namespace LspProbe.Http

/-- The final answer of an exchange. -/
structure Received where
  status : Nat
  reason : String
  url : String
  body : List UInt8
  complete : Bool
  deriving DecidableEq, Repr

/-- The answer as received for a URL. -/
def Answer.received (a : Answer) (url : String) : Received :=
  if isBodiless a.status then ⟨a.status, a.knownReason, url, [], true⟩
  else ⟨a.status, a.knownReason, url, a.body, a.missing = 0⟩

/-- A result, the requests that led to it, and the replies left for others. -/
structure Play (α : Type) where
  result : α
  requests : List Request
  left : Script

/-- The same play after an earlier request. -/
def Play.after {α : Type} (p : Play α) (r : Request) : Play α :=
  { p with requests := r :: p.requests }

/-- Sends a request for `url` and follows at most `allowance` redirects. Faults on the way are
reported for the URL that the exchange started with. -/
def chase (network : Network) (start : String) :
    Nat → Request → Url → Script → Play (Except Failure Received)
  | allowance, request, url, script =>
    match network.barrier? start url with
    | some failure => ⟨.error failure, [], script⟩
    | none =>
      match script.next with
      | (.hang, left) => ⟨.error (.timedOut start), [request], left⟩
      | (.close, left) => ⟨.error (.closed start), [request], left⟩
      | (.garbage, left) => ⟨.error (.garbled start), [request], left⟩
      | (.answer a, left) =>
        match a.flaw?, a.redirect? url with
        | some flaw, _ => ⟨.error (.badHead start flaw), [request], left⟩
        | none, none => ⟨.ok (a.received url.text), [request], left⟩
        | none, some next =>
          match allowance with
          | 0 => ⟨.error (.tooManyRedirects url.text), [request], left⟩
          | allowance + 1 =>
            if next.isHttp then
              (chase network start allowance (request.redirected a.status next) next left).after
                request
            else ⟨.error (.badScheme next.text), [request], left⟩

/-- How many redirects are followed. -/
def maxRedirects : Nat := 10

/-- How the client introduces itself. -/
def userAgent : String := "arkts-lsp-tester/0.1.0"

/-- The first request for a URL: the body is posted as JSON. -/
def posting (url : Url) (body : String) : Request :=
  ⟨.post, url.target, some "application/json", userAgent, body⟩

/-- Posts a body to the URL that a text stands for. -/
def exchange (network : Network) (address body : String) (script : Script) :
    Play (Except Failure Received) :=
  match Url.parse address with
  | .error flaw => ⟨.error (.badUrl flaw), [], script⟩
  | .ok given =>
    let url := given.withoutCredentials
    if !url.isHttp then ⟨.error (.badScheme url.text), [], script⟩
    else if !url.isAddress then ⟨.error (.noAddress url.text), [], script⟩
    else chase network url.text maxRedirects (posting url body) url.addressed script

end LspProbe.Http
