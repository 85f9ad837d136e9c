import LspProbe.Proofs.Redirects
import LspProbe.Proofs.Steps
import Mathlib.Control.Monad.Basic

/-!
# Chains of redirects

Whatever a server replies, a query ends after eleven requests. They are posts of the query as long
as the redirects say to repeat them, and bare requests from the first other redirect on. A server
that goes on redirecting gets no further: such a query fails, and reports no status.
-/

namespace LspProbe

attribute [local irreducible] Http.exchange

namespace Http

/-- Requests fall into posts of a body and bare ones. A post is followed by another one after a
reply with status 307 or 308, and by the first bare request after one with status 301, 302 or
303. -/
structure Splits (body : String) (replies : Script) (posts bare : List Request) : Prop where
  all_post : ∀ r ∈ posts, r.Posts body
  all_bare : ∀ r ∈ bare, r.IsBare
  repeated : ∀ i, i + 1 < posts.length →
    ∃ a, replies[i]? = some (.answer a) ∧ a.status ∈ [307, 308]
  changed : bare ≠ [] →
    ∃ i a, posts.length = i + 1 ∧ replies[i]? = some (.answer a) ∧ a.status ∈ [301, 302, 303]

/-- One more post in front, repeated after a redirect that says so. -/
theorem Splits.cons {body : String} {replies : Script} {posts bare : List Request}
    (h : Splits body replies posts bare) {r : Request} (hr : r.Posts body) {a : Answer}
    (ha : a.status ∈ [307, 308]) : Splits body (.answer a :: replies) (r :: posts) bare := by
  refine ⟨List.forall_mem_cons.mpr ⟨hr, h.all_post⟩, h.all_bare, ?_, ?_⟩
  · intro i hi
    cases i with
    | zero => exact ⟨a, rfl, ha⟩
    | succ i =>
      obtain ⟨b, hb, hs⟩ := h.repeated i (by simpa using hi)
      exact ⟨b, by simpa using hb, hs⟩
  · intro hbare
    obtain ⟨i, b, hi, hb, hs⟩ := h.changed hbare
    exact ⟨i + 1, b, by simp [hi], by simpa using hb, hs⟩

/-- The URL that an answer sends the client to, if it can be read and is a redirect to follow. -/
def Answer.leads? (a : Answer) (url : Url) : Option Url :=
  if a.flaw? = none then a.redirect? url else none

/-- The URLs that replies lead through, from the first one on. -/
def trail (url : Url) : Script → List Url
  | .answer a :: replies =>
    match a.leads? url with
    | some next => url :: trail next replies
    | none => [url]
  | _ => [url]

end Http

open Http

/-- The URL that requests of a kind of query start from. -/
structure Config.Builds (c : Config) (kind : QueryKind) (url : Url) : Prop where
  parsed : (Url.parse (c.endpointOf kind)).map Url.withoutCredentials = .ok url
  isHttp : url.isHttp = true
  isAddress : url.isAddress = true

namespace Client

variable (c : Client) (q : Query)

theorem play_of_builds {url : Url} (h : c.config.Builds q.kind url) (script : Script) :
    c.play q script =
      chase c.network url.text maxRedirects (posting url q.body) url.addressed script := by
  obtain ⟨given, hparse, hurl⟩ := map_eq_ok_iff.mp h.parsed
  rw [play, exchange, hparse]
  simp only [hurl, h.isHttp, h.isAddress, Bool.not_true, Bool.false_eq_true, if_false]

end Client

/-- What a query sends is a chain: at most eleven requests, one for each reply that it takes, the
first of them to the URL that was configured and the others along the trail of the replies. Posts
come first and bare requests after them, and a trail that leads further than that ends in a failure
without a status. -/
structure IsChain {α : Type} (c : Client) (q : Query) (script : Script)
    (asked : Asked (Outcome α)) : Prop where
  bounded : asked.requests.length ≤ 11
  left : asked.left = script.drop asked.requests.length
  unsent : c.network.server.listening = false ∨ (∀ url, ¬c.config.Builds q.kind url) →
    asked.requests = [] ∧ asked.left = script
  first : ∀ r, asked.requests.head? = some r →
    ∃ url, c.config.Builds q.kind url ∧ r = posting url q.body
  follows : ∀ url, c.config.Builds q.kind url → asked.requests.tail.map Request.target =
    ((trail url.addressed (script.served asked.requests.length)).take
      asked.requests.length).tail.map Url.target
  splits : ∃ posts bare, asked.requests = posts ++ bare ∧
    Splits q.body (script.served asked.requests.length) posts bare
  exceeded : ∀ url, c.config.Builds q.kind url →
    (trail url.addressed (script.served 11)).length = 12 →
    asked.result.success = false ∧ asked.result.statusCode = none

theorem IsChain.map {α β : Type} {c : Client} {q : Query} {script : Script}
    {asked : Asked (Outcome α)} (h : IsChain c q script asked) (f : α → β) :
    IsChain c q script (asked.map (.map f)) :=
  ⟨h.bounded, h.left, h.unsent, h.first, h.follows, h.splits, h.exceeded⟩

end LspProbe
