import LspProbe.Proofs.Classification
import LspProbe.Proofs.Json.Faults
import LspProbe.Proofs.Url.Characters

/-!
# Messages of failures

Whatever the base URL, the replies and their bodies hold, the message of a failed query is
printable ASCII: URLs are encoded, reasons that are not readable are dropped, and the faults of a
body quote nothing of it.
-/

namespace LspProbe

open Http Text

namespace Http

section

variable {url cause : String} (hurl : Only IsGraphic url) (hcause : Only IsGraphic cause)

include hurl hcause

private theorem Failure.only_isGraphic_building : Only IsGraphic (building url cause) := by
  unfold building
  simp only [only_append]
  exact ⟨⟨⟨only_literal rfl (by decide), hurl⟩, only_literal rfl (by decide)⟩, hcause⟩

private theorem Failure.only_isGraphic_sending : Only IsGraphic (sending url cause) := by
  unfold sending
  simp only [only_append]
  exact ⟨⟨⟨only_literal rfl (by decide), hurl⟩, only_literal rfl (by decide)⟩, hcause⟩

private theorem Failure.only_isGraphic_connecting : Only IsGraphic (connecting url cause) :=
  only_isGraphic_sending hurl (only_append.mpr ⟨only_literal rfl (by decide), hcause⟩)

private theorem Failure.only_isGraphic_exchanging : Only IsGraphic (exchanging url cause) :=
  only_isGraphic_sending hurl (only_append.mpr ⟨only_literal rfl (by decide), hcause⟩)

end

theorem Obstacle.only_isGraphic_cause (obstacle : Obstacle) : Only IsGraphic obstacle.cause := by
  intro c hc
  simpa [IsGraphic] using List.all_eq_true.mp obstacle.isPrintable c hc

private theorem Failure.only_isGraphic_badHead {url : String} (hurl : Only IsGraphic url)
    (flaw : HeadFlaw) : Only IsGraphic (badHead url flaw).message := by
  cases flaw <;> exact only_isGraphic_exchanging hurl (only_literal rfl (by decide))

private theorem Failure.only_isGraphic_errorStatus {reason url : String}
    (hreason : Only IsGraphic (reasonText reason)) (hurl : Only IsGraphic url) (status : Nat) :
    Only IsGraphic (errorStatus status reason url).message := by
  have hside : Only IsGraphic (if status < 500 then "client" else "server") := by
    split <;> exact only_literal rfl (by decide)
  change Only IsGraphic ("HTTP status " ++ (if status < 500 then "client" else "server") ++
    " error (" ++ toString status ++ " " ++ reasonText reason ++ ") for url (" ++ url ++ ")")
  simp only [only_append]
  have hstatus := Url.only_isGraphic_toString status
  refine ⟨⟨⟨⟨⟨⟨⟨⟨?_, hside⟩, ?_⟩, hstatus⟩, ?_⟩, hreason⟩, ?_⟩, hurl⟩, ?_⟩
  all_goals exact only_literal rfl (by decide)

private theorem Failure.only_isGraphic_tooManyRedirects {url : String} (hurl : Only IsGraphic url) :
    Only IsGraphic (tooManyRedirects url).message := by
  change Only IsGraphic ("error following redirect for url (" ++ url ++ "): too many redirects")
  simp only [only_append]
  exact ⟨⟨only_literal rfl (by decide), hurl⟩, only_literal rfl (by decide)⟩

/-- A reason that was understood shows in printable characters. -/
theorem Answer.only_isGraphic_reason {a : Answer} (h : a.flaw? = none) :
    Only IsGraphic (Failure.reasonText a.knownReason) := by
  have hhead : isHeadText a.reason = true := by
    unfold Answer.flaw? at h
    split at h
    · cases h
    · split at h
      · cases h
      · next hheader =>
        simp only [List.all_append, List.all_cons, List.all_nil, Bool.not_eq_true,
          Bool.not_eq_false', Bool.and_eq_true] at hheader
        exact hheader.1.1.1
  rw [Answer.knownReason, Failure.reasonText, only_ofList]
  split
  · next hascii =>
    intro d hd
    obtain ⟨c, hc, hd⟩ := List.mem_flatMap.mp hd
    have hchar := List.all_eq_true.mp hhead c hc
    have hlt := List.all_eq_true.mp hascii c hc
    simp only [isHeadChar, Bool.or_eq_true, Bool.and_eq_true, decide_eq_true_eq] at hchar hlt
    rw [Failure.reasonChar] at hd
    split at hd
    · exact forall_mem_of_all (l := ['\\', 't']) (by decide) d hd
    · next htab =>
      have hgraphic : IsGraphic c := by
        rcases hchar with hchar | hchar
        · exact absurd hchar htab
        · exact ⟨hchar.1, by omega⟩
      split at hd
      · simp only [List.mem_cons, List.not_mem_nil, or_false] at hd
        rcases hd with rfl | rfl
        · decide
        · exact hgraphic
      · rw [List.mem_singleton.mp hd]
        exact hgraphic
  · simp

theorem Answer.redirect?_graphic {a : Answer} {url next : Url} (hurl : url.Graphic)
    (h : a.redirect? url = some next) : next.Graphic := by
  unfold Answer.redirect? at h
  split at h
  · obtain ⟨location, _, h⟩ := Option.bind_eq_some_iff.mp h
    unfold follow? at h
    split at h
    · next joined hjoin =>
      split at h
      · cases h
        exact (Url.join_graphic hurl hjoin).addressed
      · cases h
    · cases h
  · cases h

/-- What an exchange brought can be told in printable characters. -/
def IsTellable : Except Failure Received → Prop
  | .error failure => Only IsGraphic failure.message
  | .ok r => Only IsGraphic (Failure.reasonText r.reason) ∧ Only IsGraphic r.url

section

variable {start : String} (hstart : Only IsGraphic start)

include hstart

theorem isTellable_barrier? {network : Network} {url : Url} {failure : Failure}
    (h : network.barrier? start url = some failure) : IsTellable (.error failure) := by
  rcases Network.barrier?_cases h with rfl | ⟨obstacle, rfl⟩
  · exact Failure.only_isGraphic_connecting hstart (only_literal rfl (by decide))
  · exact Failure.only_isGraphic_connecting hstart obstacle.only_isGraphic_cause

private theorem isTellable_turn {n : Nat} {url : Url} (hurl : url.Graphic) {reply : Reply}
    {result : Except Failure Received} (h : turn start n url reply = .stop result) :
    IsTellable result := by
  cases reply with
  | hang =>
    cases h
    exact Failure.only_isGraphic_sending hstart (only_literal rfl (by decide))
  | close =>
    cases h
    exact Failure.only_isGraphic_exchanging hstart (only_literal rfl (by decide))
  | garbage =>
    cases h
    exact Failure.only_isGraphic_exchanging hstart (only_literal rfl (by decide))
  | answer a =>
    simp only [turn, answerTurn] at h
    split at h
    · cases h
      exact Failure.only_isGraphic_badHead hstart _
    · next hhead _ =>
      cases h
      rw [IsTellable, Answer.received_eq]
      exact ⟨Answer.only_isGraphic_reason hhead, hurl.text⟩
    · next next _ hredirect =>
      have hnext : next.Graphic := Answer.redirect?_graphic hurl hredirect
      split at h
      · cases h
        exact Failure.only_isGraphic_tooManyRedirects hurl.text
      · split at h
        · cases h
        · cases h
          exact Failure.only_isGraphic_building hnext.text (only_literal rfl (by decide))

theorem isTellable_chase {network : Network} (n : Nat) (request : Request) {url : Url}
    (hurl : url.Graphic) (script : Script) :
    IsTellable (chase network start n request url script).result := by
  induction n, request, url, script using chase_induct network start with
  | barred n request url script failure hb hc =>
    rw [hc]
    exact isTellable_barrier? hstart hb
  | stop n request url script result hb ht hc =>
    rw [hc]
    exact isTellable_turn hstart hurl ht
  | go n request url script status next hb ht hc ih =>
    obtain ⟨a, _, _, hredirect, _⟩ := turn_eq_go ht
    rw [hc]
    exact ih (Answer.redirect?_graphic hurl hredirect)

end

theorem isTellable_exchange (network : Network) (address body : String) (script : Script) :
    IsTellable (exchange network address body script).result := by
  unfold exchange
  split
  · next flaw _ =>
    have hflaw : Only IsGraphic flaw.message := by cases flaw <;> exact only_literal rfl (by decide)
    exact only_append.mpr ⟨only_literal rfl (by decide), hflaw⟩
  · next url hparse =>
    have hurl : url.withoutCredentials.Graphic := (Url.parse_graphic hparse).withoutCredentials
    dsimp only
    split
    · exact Failure.only_isGraphic_building hurl.text (only_literal rfl (by decide))
    · split
      · exact Failure.only_isGraphic_building hurl.text (only_literal rfl (by decide))
      · exact isTellable_chase hurl.text _ _ hurl.addressed script

end Http

namespace Client

private theorem only_isGraphic_read {r : Except Failure Received} (h : IsTellable r)
    {failure : Failure} (hread : read r = .error failure) : Only IsGraphic failure.message := by
  cases r with
  | error found =>
    cases hread
    exact h
  | ok received =>
    have hdata : dataOf received = .error failure := by
      change (dataOf received >>= fun data => .ok (received.status, data)) = _ at hread
      cases hd : dataOf received with
      | error found =>
        rw [hd] at hread
        cases hread
        rfl
      | ok data =>
        rw [hd] at hread
        cases hread
    unfold dataOf at hdata
    split at hdata
    · cases hdata
      exact Failure.only_isGraphic_errorStatus h.1 h.2 _
    · split at hdata
      · split at hdata
        · cases hdata
        · next fault hparse =>
          cases hdata
          exact only_append.mpr ⟨only_literal rfl (by decide), Json.only_isGraphic_message hparse _⟩
      · cases hdata
        refine only_append.mpr ⟨?_, only_append.mpr ⟨?_, ?_⟩⟩
        all_goals exact only_literal rfl (by decide)

theorem only_isGraphic_ask {c : Client} {q : Query} {script : Script} {failure : Failure}
    (h : read (c.play q script).result = .error failure) : Only IsGraphic failure.message :=
  only_isGraphic_read (isTellable_exchange _ _ _ _) h

end Client

end LspProbe
