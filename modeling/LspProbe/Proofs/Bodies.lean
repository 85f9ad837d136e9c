import LspProbe.Proofs.Classification
import LspProbe.Proofs.Json.Numerals

/-!
# Bodies of successful replies

A query that ends with a reply of status 200 succeeds on JSON texts only, and on all those whose
numbers are integers of 64 bits. Everything else fails to decode.
-/

namespace LspProbe

open Http

/-- The last reply that a query takes has status 200, a head that can be read and a body that
comes whole. -/
def Client.Receives (c : Client) (q : Query) (script : Script) (body : List UInt8) : Prop :=
  ∃ a : Answer, script.last? (c.ask q script).requests.length = some (.answer a) ∧
    a.flaw? = none ∧ a.status = 200 ∧ a.missing = 0 ∧ a.body = body

/-- An outcome is what a body makes of it. -/
structure ReadFrom {α : Type} (view : Json → α) (body : List UInt8) (o : Outcome α) : Prop where
  of_success : o.success = true → Json.IsUtf8 body ∧ ∃ v, o.data = some (view v) ∧
    Json.Padded (Json.IsTextBy (fun _ => Json.IsNumeral) 127 v) body
  of_integral : ∀ v, Json.Padded (Json.IsTextBy Json.IsIntegral 127 v) body →
    o.success = true ∧ o.data = some (view v)
  of_failure : o.success = false → o.statusCode = none ∧
    ∃ cause, o.error = some ("error decoding response body: " ++ cause)

theorem Client.result_of_receives {c : Client} {q : Query} {script : Script} {body : List UInt8}
    (h : c.Receives q script body) :
    (c.ask q script).result =
      match Json.parse body with
      | .ok data => .succeeded data 200
      | .error fault => .failed (Failure.decoding (fault.message body)) none := by
  obtain ⟨a, hlast, hhead, hstatus, hmissing, rfl⟩ := h
  have hends := exchange_ends c.network (c.config.endpointOf q.kind) q.body script
  rw [ask_requests] at hlast
  rw [ask_result]
  rw [play] at hlast ⊢
  generalize exchange c.network (c.config.endpointOf q.kind) q.body script = play at *
  generalize play.result = result at *
  cases hends with
  | answered b url hb _ =>
    cases hlast.symm.trans hb
    have herror : Failure.isError a.status = false := by rw [hstatus]; rfl
    have hcontent : a.content = a.body := by rw [Answer.content, hstatus]; rfl
    have hwhole : a.isWhole = true := by simp [Answer.isWhole, hmissing]
    rw [read_received, dataOf_received, if_neg (by simp [herror]), if_pos hwhole, hcontent]
    cases Json.parse a.body with
    | ok data => rw [Except.map, outcomeOf, hstatus]
    | error fault => rfl
  | broken failure _ hredirects =>
    have hs := hredirects a hlast hhead
    rw [hstatus] at hs
    cases hs

theorem Client.Receives.readFrom {α : Type} (view : Json → α) {c : Client} {q : Query}
    {script : Script} {body : List UInt8} (h : c.Receives q script body) :
    ReadFrom view body ((c.ask q script).result.map view) := by
  rw [result_of_receives h]
  cases hparse : Json.parse body with
  | ok data =>
    refine ⟨fun _ => ?_, fun v hv => ?_, nofun⟩
    · exact ⟨Json.isUtf8_of_parse hparse, data, rfl, Json.isTextBy_of_parse hparse⟩
    · cases hparse.symm.trans (Json.parse_of_integral hv)
      exact ⟨rfl, rfl⟩
  | error fault =>
    refine ⟨nofun, fun v hv => ?_, fun _ => ⟨rfl, _, rfl⟩⟩
    cases hparse.symm.trans (Json.parse_of_integral hv)

/-- Bodies of status 200 that succeed are JSON, those that are JSON with integers of 64 bits
succeed, and the others fail to decode. -/
theorem outcome_read_from_body (c : Client) (p : Position) (includeDeclaration : Bool)
    (script : Script) (body : List UInt8) :
    (c.Receives (.definition p) script body →
      ReadFrom Locations.mk body (c.findDefinition p script).result) ∧
    (c.Receives (.references p includeDeclaration) script body →
      ReadFrom Locations.mk body (c.findReferences p includeDeclaration script).result) ∧
    (c.Receives (.signature p) script body →
      ReadFrom SignatureReply.mk body (c.signatureHelp p script).result) :=
  ⟨fun h => h.readFrom _, fun h => h.readFrom _, fun h => h.readFrom _⟩

private def repeatedKeys : String := "\x7b\"k\": 1, \"k\": [-0, \"\\ud83d\\ude00\"]\x7d"

private theorem receives_repeatedKeys :
    (Client.facing ⟨3000, true⟩).Receives (.signature (.ofFile "/a.ets" 20 28))
      [.answer (.pointing 308 "/moved"), .answer (.saying 200 repeatedKeys)]
      (Utf8.encode repeatedKeys) :=
  ⟨.saying 200 repeatedKeys, by decide +kernel, by decide, rfl, rfl, rfl⟩

/-- A redirect leads to an object with a repeated key, a negative zero and a pair of escapes. -/
theorem repeated_keys_read_from_body :
    (Client.facing ⟨3000, true⟩).Receives (.signature (.ofFile "/a.ets" 20 28))
      [.answer (.pointing 308 "/moved"), .answer (.saying 200 repeatedKeys)]
      (Utf8.encode repeatedKeys) ∧
    ReadFrom SignatureReply.mk (Utf8.encode repeatedKeys)
      ((Client.facing ⟨3000, true⟩).signatureHelp (.ofFile "/a.ets" 20 28)
        [.answer (.pointing 308 "/moved"), .answer (.saying 200 repeatedKeys)]).result :=
  ⟨receives_repeatedKeys, (outcome_read_from_body _ _ false _ _).2.2 receives_repeatedKeys⟩

end LspProbe
