import LspProbe.Proofs.Classification

/-!
# Requests along redirects

The first request of a query posts its body. A redirect keeps it so unless its status is 301, 302
or 303: after one of these every request is a bare GET. So all requests of a query carry it, and a
success answers one that does, exactly if no redirect on the way had such a status.
-/

namespace LspProbe

attribute [local irreducible] Http.exchange

namespace Http

/-- A request posts a body as JSON. -/
structure Request.Posts (r : Request) (body : String) : Prop where
  method : r.method = .post
  contentType : r.contentType = some "application/json"
  body : r.body = body

/-- A request asks for a target and says nothing else. -/
structure Request.IsBare (r : Request) : Prop where
  method : r.method = .get
  contentType : r.contentType = none
  body : r.body = ""

/-- No reply turns what follows into a bare request. -/
def Script.KeepsBody (replies : Script) : Prop :=
  ∀ a, .answer a ∈ replies → a.status ∉ [301, 302, 303]

/-- A request after some replies posts a body, or is bare because of one of them. -/
def Request.Carries (r : Request) (body : String) (replies : Script) : Prop :=
  r.Posts body ∧ replies.KeepsBody ∨ r.IsBare ∧ ¬replies.KeepsBody

namespace Request

theorem Carries.posts_iff {r : Request} {body : String} {replies : Script}
    (h : r.Carries body replies) : r.Posts body ↔ replies.KeepsBody := by
  rcases h with ⟨hposts, hkeeps⟩ | ⟨hbare, hkeeps⟩
  · exact iff_of_true hposts hkeeps
  · refine iff_of_false (fun hposts => ?_) hkeeps
    cases hbare.method.symm.trans hposts.method

theorem Posts.redirected {r : Request} {body : String} (h : r.Posts body) {status : Nat}
    (hs : repeats status = true) (next : Url) : (r.redirected status next).Posts body := by
  rw [Request.redirected, if_pos hs]
  exact ⟨h.method, h.contentType, h.body⟩

theorem IsBare.redirected {r : Request} (h : r.IsBare) (status : Nat) (next : Url) :
    (r.redirected status next).IsBare := by
  unfold Request.redirected
  split
  · exact ⟨h.method, h.contentType, h.body⟩
  · exact ⟨rfl, rfl, rfl⟩

theorem isBare_redirected (r : Request) {status : Nat} (hs : repeats status = false)
    (next : Url) : (r.redirected status next).IsBare := by
  simp only [Request.redirected, hs]
  exact ⟨rfl, rfl, rfl⟩

end Request

theorem repeats_eq_true_iff {status : Nat} (h : redirects status = true) :
    repeats status = true ↔ status ∉ [301, 302, 303] := by
  simp only [redirects, List.contains_iff_mem, List.mem_cons, List.not_mem_nil, or_false] at h
  rcases h with rfl | rfl | rfl | rfl | rfl <;> decide

private theorem Script.keepsBody_append_singleton (replies : Script) (a : Answer) :
    Script.KeepsBody (replies ++ [.answer a]) ↔
      replies.KeepsBody ∧ a.status ∉ [301, 302, 303] := by
  constructor
  · intro h
    exact ⟨fun b hb => h b (List.mem_append_left _ hb), h a (by simp)⟩
  · rintro ⟨hreplies, ha⟩ b hb
    rcases List.mem_append.mp hb with hb | hb
    · exact hreplies b hb
    · cases List.mem_singleton.mp hb
      exact ha

/-- One redirect: a request goes on as it is, or is bare from here on. -/
theorem Request.Carries.redirected {r : Request} {body : String} {replies : Script}
    (h : r.Carries body replies) {a : Answer} (hs : redirects a.status = true) (next : Url) :
    (r.redirected a.status next).Carries body (replies ++ [.answer a]) := by
  rw [Request.Carries, Script.keepsBody_append_singleton]
  have hrepeats := repeats_eq_true_iff hs
  rcases h with ⟨hposts, hkeeps⟩ | ⟨hbare, hkeeps⟩
  · cases hr : repeats a.status with
    | true => exact .inl ⟨hposts.redirected hr next, hkeeps, hrepeats.mp hr⟩
    | false =>
      refine .inr ⟨r.isBare_redirected hr next, fun hboth => ?_⟩
      rw [hrepeats.mpr hboth.2] at hr
      cases hr
  · exact .inr ⟨hbare.redirected a.status next, fun hboth => hkeeps hboth.1⟩

/-- Every request of a chase carries what its first one does, as far as the replies in between
let it. -/
theorem chase_carries {network : Network} {start body : String} (n : Nat) (request : Request)
    (url : Url) (script past : Script) (h : request.Carries body past) (i : Nat) (r : Request)
    (hr : (chase network start n request url script).requests[i]? = some r) :
    r.Carries body (past ++ script.served i) := by
  induction n, request, url, script using chase_induct network start generalizing past i with
  | barred n request url script failure hb hc =>
    rw [hc] at hr
    cases hr
  | stop n request url script result hb ht hc =>
    rw [hc] at hr
    cases i with
    | zero =>
      cases hr
      simpa using h
    | succ i => cases hr
  | go n request url script status next hb ht hc ih =>
    rw [hc] at hr
    cases i with
    | zero =>
      cases hr
      simpa using h
    | succ i =>
      obtain ⟨a, hreply, _, hredirect, rfl, _⟩ := turn_eq_go ht
      have hstep := h.redirected (redirects_of_redirect? hredirect) next
      have hrest := ih _ hstep i hr
      rwa [List.append_assoc, List.singleton_append, ← hreply, ← Script.served_succ] at hrest

theorem exchange_carries (network : Network) (address body : String) (script : Script) (i : Nat)
    (r : Request) (hr : (exchange network address body script).requests[i]? = some r) :
    r.Carries body (script.served i) := by
  rcases exchange_cases network address with ⟨failure, _, h⟩ | ⟨url, _, h⟩
  · rw [h] at hr
    cases hr
  · rw [h] at hr
    have hfirst : (posting url.withoutCredentials body).Carries body [] :=
      .inl ⟨⟨rfl, rfl, rfl⟩, by simp [Script.KeepsBody]⟩
    exact chase_carries _ _ _ script [] hfirst i r hr

end Http

open Http

/-- How far the requests of a query carry it. All of them do exactly if no reply to a request but
the last has status 301, 302 or 303, and the same decides whether a success answers one that
does. -/
structure CarriesQuery {α : Type} (body : String) (script : Script)
    (asked : Asked (Outcome α)) : Prop where
  each : ∀ (i : Nat) (r : Request), asked.requests[i]? = some r →
    r.Carries body (script.served i)
  all_iff : (∀ r ∈ asked.requests, r.Posts body) ↔
    (script.served (asked.requests.length - 1)).KeepsBody
  success_iff : asked.result.success = true → ∃ r, asked.requests.getLast? = some r ∧
    (r.Posts body ↔ (script.served (asked.requests.length - 1)).KeepsBody)

theorem CarriesQuery.map {α β : Type} {body : String} {script : Script}
    {asked : Asked (Outcome α)} (h : CarriesQuery body script asked) (f : α → β) :
    CarriesQuery body script (asked.map (.map f)) :=
  ⟨h.each, h.all_iff, h.success_iff⟩

private theorem all_posts_iff {body : String} {script : Script} {requests : List Request}
    (h : ∀ (i : Nat) (r : Request), requests[i]? = some r → r.Carries body (script.served i)) :
    (∀ r ∈ requests, r.Posts body) ↔ (script.served (requests.length - 1)).KeepsBody := by
  constructor
  · intro hall
    cases hl : requests.getLast? with
    | none =>
      rw [List.getLast?_eq_none_iff.mp hl]
      simp [Script.KeepsBody]
    | some r =>
      have hr : requests[requests.length - 1]? = some r := by
        rw [← List.getLast?_eq_getElem?, hl]
      exact (h _ r hr).posts_iff.mp (hall r (List.mem_of_getLast? hl))
  · intro hkeeps r hr
    obtain ⟨i, hi, rfl⟩ := List.getElem_of_mem hr
    refine (h i _ (List.getElem?_eq_getElem hi)).posts_iff.mpr fun a ha => hkeeps a ?_
    exact script.mem_served_of_le (by omega) ha

theorem Client.ask_carriesQuery (c : Client) (q : Query) (script : Script) :
    CarriesQuery q.body script (c.ask q script) := by
  have heach : ∀ (i : Nat) (r : Request), (c.ask q script).requests[i]? = some r →
      r.Carries q.body (script.served i) := by
    intro i r hr
    rw [ask_requests] at hr
    exact exchange_carries _ _ _ script i r hr
  refine ⟨heach, all_posts_iff heach, fun hsuccess => ?_⟩
  obtain ⟨a, _, hlast, _⟩ := (c.ask_accounts id q script).of_success hsuccess
  cases hl : (c.ask q script).requests.getLast? with
  | none =>
    rw [Asked.map, List.getLast?_eq_none_iff.mp hl] at hlast
    simp at hlast
  | some r =>
    rw [List.getLast?_eq_getElem?] at hl
    exact ⟨r, rfl, (heach _ r hl).posts_iff⟩

/-- The requests of a query carry it unless a redirect with status 301, 302 or 303 intervenes. -/
theorem requests_carry_query_iff (c : Client) (p : Position) (includeDeclaration : Bool)
    (script : Script) :
    CarriesQuery (Query.definition p).body script (c.findDefinition p script) ∧
    CarriesQuery (Query.references p includeDeclaration).body script
      (c.findReferences p includeDeclaration script) ∧
    CarriesQuery (Query.signature p).body script (c.signatureHelp p script) :=
  ⟨(c.ask_carriesQuery (.definition p) script).map _,
    (c.ask_carriesQuery (.references p includeDeclaration) script).map _,
    (c.ask_carriesQuery (.signature p) script).map _⟩

/-- A success may answer a request that does not carry the query. -/
theorem success_after_bare_request :
    ((Client.facing ⟨3000, true⟩).findDefinition (.ofFile "/a.ets" 20 28)
      [.answer (.pointing 302 "/moved"), .answer (.saying 200 "[]")]).result.success = true ∧
    ((Client.facing ⟨3000, true⟩).findDefinition (.ofFile "/a.ets" 20 28)
      [.answer (.pointing 302 "/moved"), .answer (.saying 200 "[]")]).requests.map
        (fun r => (r.method, r.contentType, r.body)) =
      [(.post, some "application/json", (Query.definition (.ofFile "/a.ets" 20 28)).body),
        (.get, none, "")] :=
  ⟨by decide +kernel, by decide +kernel⟩

end LspProbe
