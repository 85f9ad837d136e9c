import LspProbe.Http.Exchange

/-!
# Exchanges, turn by turn

A chase is a run of turns: at each URL the client is barred, stops, or goes on to another one, and
the turn it takes depends on the reply alone. Every request takes one reply, an exchange reads
nothing beyond the replies it takes, and its result is decided by the last of them.
-/

namespace LspProbe.Http

/-- The replies to the first `n` requests: those of the script as long as it lasts, then the
standing reply of a server whose script is used up. -/
def Script.served (script : Script) (n : Nat) : Script :=
  script.take n ++ List.replicate (n - script.length) .exhausted

def Script.last? (script : Script) (n : Nat) : Option Reply := (script.served n).getLast?

namespace Script

@[simp] theorem served_zero (script : Script) : script.served 0 = [] := by simp [served]

theorem served_succ (script : Script) (n : Nat) :
    script.served (n + 1) = script.next.1 :: script.next.2.served n := by
  cases script with
  | nil => simp [served, next, List.replicate_succ]
  | cons reply left => simp [served, next]

@[simp] theorem length_served (script : Script) (n : Nat) : (script.served n).length = n := by
  simp only [served, List.length_append, List.length_take, List.length_replicate]
  omega

theorem served_append (block rest : Script) : (block ++ rest).served block.length = block := by
  simp [served]

theorem served_append_drop (script : Script) {n : Nat} (h : n ≤ script.length) :
    script.served n ++ script.drop n = script := by
  simp [served, Nat.sub_eq_zero_of_le h]

theorem mem_served_of_le (script : Script) {i j : Nat} (h : i ≤ j) {reply : Reply}
    (hr : reply ∈ script.served i) : reply ∈ script.served j := by
  induction i generalizing script j with
  | zero => simp at hr
  | succ i ih =>
    obtain ⟨j, rfl⟩ := Nat.exists_eq_succ_of_ne_zero (Nat.ne_zero_of_lt h)
    rw [served_succ] at hr ⊢
    rcases List.mem_cons.mp hr with rfl | hr
    · exact List.mem_cons_self
    · exact List.mem_cons_of_mem _ (ih _ (Nat.le_of_succ_le_succ h) hr)

theorem drop_succ (script : Script) (n : Nat) : script.drop (n + 1) = script.next.2.drop n := by
  cases script <;> simp [next]

@[simp] theorem last?_zero (script : Script) : script.last? 0 = none := by simp [last?]

theorem last?_succ (script : Script) (n : Nat) :
    script.last? (n + 1) = some ((script.next.2.last? n).getD script.next.1) := by
  rw [last?, served_succ, List.getLast?_cons, last?]

end Script

/-- What a client makes of a reply: the exchange is over, or another URL is next. -/
inductive Turn where
  | stop (result : Except Failure Received)
  | go (status : Nat) (next : Url)

def answerTurn (start : String) (allowance : Nat) (url : Url) (a : Answer) : Turn :=
  match a.flaw?, a.redirect? url with
  | some flaw, _ => .stop (.error (.badHead start flaw))
  | none, none => .stop (.ok (a.received url.text))
  | none, some next =>
    if allowance = 0 then .stop (.error (.tooManyRedirects url.text))
    else if next.isHttp then .go a.status next
    else .stop (.error (.badScheme next.text))

/-- The turn after a reply to a request for `url`. -/
def turn (start : String) (allowance : Nat) (url : Url) : Reply → Turn
  | .hang => .stop (.error (.timedOut start))
  | .close => .stop (.error (.closed start))
  | .garbage => .stop (.error (.garbled start))
  | .answer a => answerTurn start allowance url a

variable {network : Network} {start : String} {url : Url}

theorem redirects_of_redirect? {a : Answer} {next : Url} (h : a.redirect? url = some next) :
    redirects a.status = true := by
  unfold Answer.redirect? at h
  split at h
  · assumption
  · cases h

theorem turn_eq_go {n : Nat} {reply : Reply} {status : Nat} {next : Url}
    (h : turn start n url reply = .go status next) :
    ∃ a, reply = .answer a ∧ a.flaw? = none ∧ a.redirect? url = some next ∧ a.status = status ∧
      n ≠ 0 := by
  cases reply with
  | hang => cases h
  | close => cases h
  | garbage => cases h
  | answer a =>
    refine ⟨a, rfl, ?_⟩
    simp only [turn, answerTurn] at h
    split at h
    · cases h
    · cases h
    · rename_i found hf hr
      split at h
      · cases h
      · rename_i hn
        split at h
        · cases h
          exact ⟨hf, hr, rfl, hn⟩
        · cases h

/-- A chase does at its first URL what the barrier and the turn say. -/
theorem chase_eq (n : Nat) (request : Request) (script : Script) :
    chase network start n request url script =
      match network.barrier? start url with
      | some failure => ⟨.error failure, [], script⟩
      | none =>
        match turn start n url script.next.1 with
        | .stop result => ⟨result, [request], script.next.2⟩
        | .go status next =>
          (chase network start (n - 1) (request.redirected status next) next script.next.2).after
            request := by
  rw [chase]
  cases network.barrier? start url with
  | some failure => rfl
  | none =>
    obtain ⟨reply, left⟩ := script.next
    cases reply with
    | hang => rfl
    | close => rfl
    | garbage => rfl
    | answer a =>
      simp only [turn, answerTurn]
      cases a.flaw? with
      | some flaw => rfl
      | none =>
        cases a.redirect? url with
        | none => rfl
        | some next =>
          cases n with
          | zero => rfl
          | succ n => by_cases hh : next.isHttp <;> simp [hh]

/-- A chase is barred, stops after one request, or goes on from there. -/
theorem chase_cases (n : Nat) (request : Request) (url : Url) (script : Script) :
    (∃ failure, network.barrier? start url = some failure ∧
      chase network start n request url script = ⟨.error failure, [], script⟩) ∨
    (∃ result, network.barrier? start url = none ∧
      turn start n url script.next.1 = .stop result ∧
      chase network start n request url script = ⟨result, [request], script.next.2⟩) ∨
    ∃ m status next, n = m + 1 ∧ network.barrier? start url = none ∧
      turn start n url script.next.1 = .go status next ∧
      chase network start n request url script =
        (chase network start m (request.redirected status next) next script.next.2).after
          request := by
  have hc := @chase_eq network start url n request script
  cases hb : network.barrier? start url with
  | some failure =>
    rw [hb] at hc
    exact .inl ⟨failure, rfl, hc⟩
  | none =>
    rw [hb] at hc
    cases ht : turn start n url script.next.1 with
    | stop result =>
      rw [ht] at hc
      exact .inr (.inl ⟨result, rfl, rfl, hc⟩)
    | go status next =>
      rw [ht] at hc
      obtain ⟨_, _, _, _, _, hn⟩ := turn_eq_go ht
      obtain ⟨m, rfl⟩ := Nat.exists_eq_succ_of_ne_zero hn
      exact .inr (.inr ⟨m, status, next, rfl, rfl, rfl, hc⟩)

/-- What holds of every chase that is barred or stops, and passes from the rest of a chase to the
whole of it, holds of all chases. -/
theorem chase_induct (network : Network) (start : String)
    {motive : Nat → Request → Url → Script → Prop}
    (barred : ∀ n request url script failure, network.barrier? start url = some failure →
      chase network start n request url script = ⟨.error failure, [], script⟩ →
      motive n request url script)
    (stop : ∀ n request url script result, network.barrier? start url = none →
      turn start n url script.next.1 = .stop result →
      chase network start n request url script = ⟨result, [request], script.next.2⟩ →
      motive n request url script)
    (go : ∀ n request url script status next, network.barrier? start url = none →
      turn start (n + 1) url script.next.1 = .go status next →
      chase network start (n + 1) request url script =
        (chase network start n (request.redirected status next) next script.next.2).after request →
      motive n (request.redirected status next) next script.next.2 →
      motive (n + 1) request url script)
    (n : Nat) (request : Request) (url : Url) (script : Script) : motive n request url script := by
  induction n generalizing request url script with
  | zero =>
    rcases chase_cases 0 request url script with
      ⟨failure, hb, hc⟩ | ⟨result, hb, ht, hc⟩ | ⟨m, _, _, hm, _⟩
    · exact barred 0 request url script failure hb hc
    · exact stop 0 request url script result hb ht hc
    · cases hm
  | succ n ih =>
    rcases chase_cases (n + 1) request url script with
      ⟨failure, hb, hc⟩ | ⟨result, hb, ht, hc⟩ | ⟨m, status, next, hm, hb, ht, hc⟩
    · exact barred (n + 1) request url script failure hb hc
    · exact stop (n + 1) request url script result hb ht hc
    · cases hm
      exact go n request url script status next hb ht hc (ih _ _ _)

theorem chase_left (n : Nat) (request : Request) (url : Url) (script : Script) :
    (chase network start n request url script).left =
      script.drop (chase network start n request url script).requests.length := by
  induction n, request, url, script using chase_induct network start with
  | barred n request url script failure hb hc =>
    rw [hc]
    rfl
  | stop n request url script result hb ht hc =>
    rw [hc]
    exact (Script.drop_succ script 0).symm
  | go n request url script status next hb ht hc ih =>
    rw [hc, Play.after, List.length_cons, Script.drop_succ]
    exact ih

/-- Two scripts that give the same replies to the requests of a chase lead to the same chase. -/
theorem chase_congr (n : Nat) (request : Request) (url : Url) (script other : Script)
    (h : other.served (chase network start n request url script).requests.length =
      script.served (chase network start n request url script).requests.length) :
    (chase network start n request url other).result =
        (chase network start n request url script).result ∧
      (chase network start n request url other).requests =
        (chase network start n request url script).requests := by
  induction n, request, url, script using chase_induct network start generalizing other with
  | barred n request url script failure hb hc =>
    rw [hc, chase_eq, hb]
    exact ⟨rfl, rfl⟩
  | stop n request url script result hb ht hc =>
    rw [hc, List.length_singleton, Script.served_succ, Script.served_succ] at h
    obtain ⟨hreply, _⟩ := List.cons.inj h
    rw [hc, chase_eq, hb, hreply, ht]
    exact ⟨rfl, rfl⟩
  | go n request url script status next hb ht hc ih =>
    rw [hc, Play.after, List.length_cons, Script.served_succ, Script.served_succ] at h
    obtain ⟨hreply, hrest⟩ := List.cons.inj h
    obtain ⟨hresult, hrequests⟩ := ih other.next.2 hrest
    rw [hc, chase_eq, hb, hreply, ht]
    exact ⟨hresult, congrArg (request :: ·) hrequests⟩

/-- Whether and how a chase opens is settled before any reply. -/
theorem chase_head? (n : Nat) (request : Request) (script : Script) :
    (chase network start n request url script).requests.head? =
      if network.barrier? start url = none then some request else none := by
  rw [chase_eq]
  cases network.barrier? start url with
  | some failure => rfl
  | none => cases turn start n url script.next.1 <;> rfl

/-- How an exchange ends, by the last reply it took: that reply is its answer, or it fails without
a status, and then a readable last answer was a redirect. -/
inductive Ends (last? : Option Reply) : Except Failure Received → Prop
  | answered (a : Answer) (url : String) (hlast : last? = some (.answer a))
      (hhead : a.flaw? = none) : Ends last? (.ok (a.received url))
  | broken (failure : Failure) (hcode : failure.statusCode? = none)
      (hlast : ∀ a, last? = some (.answer a) → a.flaw? = none → redirects a.status = true) :
      Ends last? (.error failure)

private theorem turn_stop_ends {n : Nat} {reply : Reply} {result : Except Failure Received}
    (h : turn start n url reply = .stop result) : Ends (some reply) result := by
  cases reply with
  | hang => cases h; exact .broken _ rfl (by simp)
  | close => cases h; exact .broken _ rfl (by simp)
  | garbage => cases h; exact .broken _ rfl (by simp)
  | answer a =>
    simp only [turn, answerTurn] at h
    split at h
    · rename_i hf
      cases h
      exact .broken _ rfl (by simp [hf])
    · rename_i hf _
      cases h
      exact .answered a _ rfl hf
    · rename_i next hf hr
      have hs := redirects_of_redirect? hr
      split at h
      · cases h
        exact .broken _ rfl (by simp [hs])
      · split at h
        · cases h
        · cases h
          exact .broken _ rfl (by simp [hs])

/-- A redirect that was followed decides nothing, unless it was the last reply. -/
theorem Ends.after {last? : Option Reply} {result : Except Failure Received} {a : Answer}
    (h : Ends last? result) (hs : redirects a.status = true) :
    Ends (some (last?.getD (.answer a))) result := by
  cases h with
  | answered b u hlast hhead => exact .answered b u (by rw [hlast, Option.getD_some]) hhead
  | broken failure hcode hlast =>
    refine .broken failure hcode fun b hb hhead => ?_
    cases last? with
    | none =>
      cases hb
      exact hs
    | some reply => exact hlast b hb hhead

theorem chase_ends (n : Nat) (request : Request) (url : Url) (script : Script) :
    Ends (script.last? (chase network start n request url script).requests.length)
      (chase network start n request url script).result := by
  induction n, request, url, script using chase_induct network start with
  | barred n request url script failure hb hc =>
    rw [hc]
    exact .broken failure (Network.statusCode?_of_barrier? hb) (by simp)
  | stop n request url script result hb ht hc =>
    rw [hc, List.length_singleton, Script.last?_succ, Script.last?_zero]
    exact turn_stop_ends ht
  | go n request url script status next hb ht hc ih =>
    obtain ⟨a, hreply, _, hr, _⟩ := turn_eq_go ht
    rw [hc, Play.after, List.length_cons, Script.last?_succ, hreply]
    exact ih.after (redirects_of_redirect? hr)

/-- An address alone decides whether an exchange comes to a first request, and for which URL. -/
theorem exchange_cases (network : Network) (address : String) :
    (∃ failure, failure.statusCode? = none ∧
      ∀ body script, exchange network address body script = ⟨.error failure, [], script⟩) ∨
    ∃ url, Url.parse address = .ok url ∧ ∀ body script,
      exchange network address body script = chase network url.withoutCredentials.text maxRedirects
        (posting url.withoutCredentials body) url.withoutCredentials.addressed script := by
  unfold exchange
  cases Url.parse address with
  | error flaw => exact .inl ⟨.badUrl flaw, rfl, fun _ _ => rfl⟩
  | ok url =>
    by_cases hh : url.withoutCredentials.isHttp
    · by_cases ha : url.withoutCredentials.isAddress
      · exact .inr ⟨url, rfl, fun _ _ => by simp [hh, ha]⟩
      · exact .inl ⟨.noAddress url.withoutCredentials.text, rfl, fun _ _ => by simp [hh, ha]⟩
    · exact .inl ⟨.badScheme url.withoutCredentials.text, rfl, fun _ _ => by simp [hh]⟩

section

variable (network : Network) (address body : String) (script : Script)

theorem exchange_left :
    (exchange network address body script).left =
      script.drop (exchange network address body script).requests.length := by
  rcases exchange_cases network address with ⟨failure, _, h⟩ | ⟨url, _, h⟩
  · rw [h]
    rfl
  · rw [h]
    exact chase_left _ _ _ _

theorem exchange_congr (other : Script)
    (hs : other.served (exchange network address body script).requests.length =
      script.served (exchange network address body script).requests.length) :
    (exchange network address body other).result = (exchange network address body script).result ∧
      (exchange network address body other).requests =
        (exchange network address body script).requests := by
  rcases exchange_cases network address with ⟨failure, _, h⟩ | ⟨url, _, h⟩
  · rw [h, h]
    exact ⟨rfl, rfl⟩
  · rw [h] at hs ⊢
    rw [h]
    exact chase_congr _ _ _ script other hs

/-- An exchange on a script that starts with the replies it took elsewhere comes to the same, and
leaves what follows them. -/
theorem exchange_served (rest : Script) :
    exchange network address body
        (script.served (exchange network address body script).requests.length ++ rest) =
      { exchange network address body script with left := rest } := by
  have hother := exchange_congr network address body script
    (script.served (exchange network address body script).requests.length ++ rest)
  have hleft := exchange_left network address body
    (script.served (exchange network address body script).requests.length ++ rest)
  generalize exchange network address body script = play at *
  have hserved : (script.served play.requests.length ++ rest).served play.requests.length =
      script.served play.requests.length := by
    simpa using Script.served_append (script.served play.requests.length) rest
  obtain ⟨hresult, hrequests⟩ := hother hserved
  rw [hrequests, List.drop_left' (Script.length_served _ _)] at hleft
  generalize exchange network address body _ = other at *
  obtain ⟨result, requests, left⟩ := other
  cases hresult
  cases hrequests
  cases hleft
  rfl

theorem exchange_head? (other : Script) :
    (exchange network address body other).requests.head? =
      (exchange network address body script).requests.head? := by
  rcases exchange_cases network address with ⟨failure, _, h⟩ | ⟨url, _, h⟩
  · rw [h, h]
  · rw [h, h, chase_head?, chase_head?]

theorem exchange_ends :
    Ends (script.last? (exchange network address body script).requests.length)
      (exchange network address body script).result := by
  rcases exchange_cases network address with ⟨failure, hcode, h⟩ | ⟨url, _, h⟩
  · rw [h]
    exact .broken failure hcode (by simp)
  · rw [h]
    exact chase_ends _ _ _ _

end

end LspProbe.Http
