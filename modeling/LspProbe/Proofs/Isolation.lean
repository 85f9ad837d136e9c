import LspProbe.Proofs.Classification

/-!
# The queries of a survey, apart from each other

A survey asks its three queries in turn, each on the replies that the one before it left. What a
query comes to depends on the block of replies it takes and on nothing before or after it, so
another block for one query leaves the other two as they were.
-/

namespace LspProbe

open Http

attribute [local irreducible] exchange

/-- Two queries came to the same, whatever replies they left. -/
structure Asked.Agrees {α : Type} (a b : Asked α) : Prop where
  result : a.result = b.result
  requests : a.requests = b.requests
  log : a.log = b.log

namespace Client

/-- A block of replies that a query takes exactly: it sends one request for each of them. -/
def Takes (c : Client) (q : Query) (block : Script) : Prop :=
  (c.ask q block).requests.length = block.length

instance (c : Client) (q : Query) (block : Script) : Decidable (c.Takes q block) :=
  inferInstanceAs (Decidable (_ = _))

private theorem play_served (c : Client) (q : Query) (script rest : Script) :
    c.play q (script.served (c.play q script).requests.length ++ rest) =
      { c.play q script with left := rest } :=
  exchange_served _ _ _ script rest

theorem ask_served (c : Client) (q : Query) (script rest : Script) :
    c.ask q (script.served (c.ask q script).requests.length ++ rest) =
      { c.ask q script with left := rest } := by
  rw [ask_requests, ask_eq, play_served, ask_eq]

private theorem takes_served (c : Client) (q : Query) (script : Script) :
    c.Takes q (script.served (c.ask q script).requests.length) := by
  have h := c.ask_served q script []
  rw [List.append_nil] at h
  rw [Takes, h, Script.length_served]

theorem ask_append {c : Client} {q : Query} {block : Script} (h : c.Takes q block)
    (rest : Script) : c.ask q (block ++ rest) = { c.ask q block with left := rest } := by
  have hblock : block.served (c.ask q block).requests.length = block := by
    rw [h]
    simpa using Script.served_append block []
  have hserved := c.ask_served q block rest
  rwa [hblock] at hserved

private theorem map_ask_append {α : Type} (f : Outcome Json → α) {c : Client} {q : Query}
    {block : Script} (h : c.Takes q block) (rest : Script) :
    (c.ask q (block ++ rest)).map f = { (c.ask q block).map f with left := rest } := by
  rw [ask_append h]
  rfl

private theorem map_ask_served {α : Type} (f : Outcome Json → α) (c : Client) (q : Query)
    (script : Script) :
    ((c.ask q (script.served (c.ask q script).requests.length)).map f).Agrees
      ((c.ask q script).map f) := by
  have h := c.ask_served q script []
  rw [List.append_nil] at h
  rw [h]
  exact ⟨rfl, rfl, rfl⟩

theorem ask_head? (c : Client) (q : Query) (script other : Script) :
    (c.ask q other).requests.head? = (c.ask q script).requests.head? := by
  rw [ask_requests, ask_requests]
  exact exchange_head? _ _ _ script other

/-- The three queries of a survey, each on the replies that the one before it left. -/
structure Stages where
  definition : Asked (Outcome Locations)
  references : Asked (Outcome Locations)
  signature : Asked (Outcome SignatureReply)

def stages (c : Client) (p : Position) (script : Script) : Stages where
  definition := c.findDefinition p script
  references := c.findReferences p true (c.findDefinition p script).left
  signature := c.signatureHelp p (c.findReferences p true (c.findDefinition p script).left).left

/-- On a script made of blocks each query takes its own. -/
theorem stages_append {c : Client} {p : Position} {d r : Script}
    (hd : c.Takes (.definition p) d) (hr : c.Takes (.references p true) r) (rest : Script) :
    c.stages p (d ++ (r ++ rest)) =
      ⟨{ c.findDefinition p d with left := r ++ rest },
        { c.findReferences p true r with left := rest }, c.signatureHelp p rest⟩ := by
  simp only [stages, findDefinition, findReferences, map_ask_append _ hd, map_ask_append _ hr]

/-- The queries of a survey do not touch each other: with `d`, `r` and `g` for the replies that
they took, another block for one of them leaves the other two as they were. -/
structure Isolated (c : Client) (p : Position) (s : Stages) (d r g : Script) : Prop where
  takes : c.Takes (.definition p) d ∧ c.Takes (.references p true) r ∧ c.Takes (.signature p) g
  definition : ∀ block, c.Takes (.definition p) block →
    (c.stages p (block ++ s.definition.left)).references.Agrees s.references ∧
    (c.stages p (block ++ s.definition.left)).signature.Agrees s.signature
  references : ∀ block, c.Takes (.references p true) block →
    (c.stages p (d ++ (block ++ s.references.left))).definition.Agrees s.definition ∧
    (c.stages p (d ++ (block ++ s.references.left))).signature.Agrees s.signature
  signature : ∀ block, c.Takes (.signature p) block →
    (c.stages p (d ++ (r ++ (block ++ s.signature.left)))).definition.Agrees s.definition ∧
    (c.stages p (d ++ (r ++ (block ++ s.signature.left)))).references.Agrees s.references

theorem stages_isolated (c : Client) (p : Position) (script : Script) :
    c.Isolated p (c.stages p script)
      (script.served (c.stages p script).definition.requests.length)
      ((c.stages p script).definition.left.served (c.stages p script).references.requests.length)
      ((c.stages p script).references.left.served
        (c.stages p script).signature.requests.length) := by
  have hd : c.Takes (.definition p)
      (script.served (c.stages p script).definition.requests.length) :=
    c.takes_served (.definition p) script
  have hr : c.Takes (.references p true)
      ((c.stages p script).definition.left.served
        (c.stages p script).references.requests.length) :=
    c.takes_served (.references p true) (c.stages p script).definition.left
  have hg := c.takes_served (.signature p) (c.stages p script).references.left
  have hdefinition := c.map_ask_served (Outcome.map Locations.mk) (.definition p) script
  have hreferences := c.map_ask_served (Outcome.map Locations.mk) (.references p true)
    (c.stages p script).definition.left
  refine ⟨⟨hd, hr, hg⟩, fun block hb => ?_, fun block hb => ?_, fun block hb => ?_⟩
  · rw [stages, findDefinition, map_ask_append _ hb]
    exact ⟨⟨rfl, rfl, rfl⟩, ⟨rfl, rfl, rfl⟩⟩
  · rw [stages_append hd hb]
    exact ⟨⟨hdefinition.result, hdefinition.requests, hdefinition.log⟩, ⟨rfl, rfl, rfl⟩⟩
  · rw [stages_append hd hr]
    exact ⟨⟨hdefinition.result, hdefinition.requests, hdefinition.log⟩,
      ⟨hreferences.result, hreferences.requests, hreferences.log⟩⟩

private theorem eq_append_blocks (c : Client) (p : Position) (script : Script)
    (h : (c.stages p script).definition.requests.length +
      (c.stages p script).references.requests.length +
      (c.stages p script).signature.requests.length ≤ script.length) :
    script = script.served (c.stages p script).definition.requests.length ++
      ((c.stages p script).definition.left.served (c.stages p script).references.requests.length ++
      ((c.stages p script).references.left.served (c.stages p script).signature.requests.length ++
        (c.stages p script).signature.left)) := by
  have hd : (c.stages p script).definition.left =
      script.drop (c.stages p script).definition.requests.length := c.ask_left (.definition p) _
  have hr : (c.stages p script).references.left =
      (c.stages p script).definition.left.drop (c.stages p script).references.requests.length :=
    c.ask_left (.references p true) _
  have hg : (c.stages p script).signature.left =
      (c.stages p script).references.left.drop (c.stages p script).signature.requests.length :=
    c.ask_left (.signature p) _
  generalize c.stages p script = s at *
  have hr' : s.references.requests.length ≤ s.definition.left.length := by
    rw [hd, List.length_drop]
    omega
  have hg' : s.signature.requests.length ≤ s.references.left.length := by
    rw [hr, hd, List.length_drop, List.length_drop]
    omega
  rw [hg, Script.served_append_drop _ hg', hr, Script.served_append_drop _ hr', hd,
    Script.served_append_drop _ (by omega)]

theorem stages_head? (c : Client) (p : Position) (script other : Script) :
    (c.stages p other).definition.requests.head? =
        (c.stages p script).definition.requests.head? ∧
      (c.stages p other).references.requests.head? =
        (c.stages p script).references.requests.head? ∧
      (c.stages p other).signature.requests.head? =
        (c.stages p script).signature.requests.head? :=
  ⟨c.ask_head? (.definition p) _ _, c.ask_head? (.references p true) _ _,
    c.ask_head? (.signature p) _ _⟩

end Client

/-- A survey, like a run of all tests, is its three queries in sequence; each of them is asked
whatever came of the others, and answers for its own block of replies only. -/
theorem survey_sequential_isolated (c : Client) (target : Target) (script : Script) :
    let p := target.position
    let s := c.stages p script
    let d := script.served s.definition.requests.length
    let r := s.definition.left.served s.references.requests.length
    let g := s.references.left.served s.signature.requests.length
    (c.survey p script).result = ⟨s.definition.result, s.references.result, s.signature.result⟩ ∧
    (c.survey p script).requests =
      s.definition.requests ++ s.references.requests ++ s.signature.requests ∧
    (∀ includeDeclaration,
      (c.run .all target includeDeclaration script).result = .all (c.survey p script).result ∧
      (c.run .all target includeDeclaration script).requests = (c.survey p script).requests) ∧
    (∀ other, (c.stages p other).definition.requests.head? = s.definition.requests.head? ∧
      (c.stages p other).references.requests.head? = s.references.requests.head? ∧
      (c.stages p other).signature.requests.head? = s.signature.requests.head?) ∧
    (d.length + r.length + g.length ≤ script.length →
      script = d ++ (r ++ (g ++ s.signature.left))) ∧
    c.Isolated p s d r g := by
  refine ⟨rfl, rfl, fun _ => ⟨rfl, rfl⟩, c.stages_head? _ script, ?_, c.stages_isolated _ script⟩
  intro h
  simp only [Script.length_served] at h
  exact c.eq_append_blocks target.position script h

private def sampleClient : Client := .facing ⟨3000, true⟩

private def sampleTarget : Target := ⟨"/a.ets", 20, 28⟩

private def sampleScript : Script :=
  [.answer (.pointing 302 "/moved"), .answer (.saying 200 "[]"), .answer (.saying 503 "")]

private theorem sampleClient_takes :
    sampleClient.Takes (.definition sampleTarget.position) [.garbage] ∧
    sampleClient.Takes (.references sampleTarget.position true)
      [.answer (.pointing 307 "/moved"), .close] := by
  decide +kernel

/-- Garbage for the first query, or a redirect and a closed connection for the second, change
nothing for the last. -/
theorem survey_isolated_from_faults :
    (sampleClient.Takes (.definition sampleTarget.position) [.garbage] ∧
      sampleClient.Takes (.references sampleTarget.position true)
        [.answer (.pointing 307 "/moved"), .close]) ∧
    (sampleClient.stages sampleTarget.position ([.garbage] ++
      (sampleClient.stages sampleTarget.position sampleScript).definition.left)).signature.Agrees
        (sampleClient.stages sampleTarget.position sampleScript).signature ∧
    (sampleClient.stages sampleTarget.position
      (sampleScript.served
        (sampleClient.stages sampleTarget.position sampleScript).definition.requests.length ++
      ([.answer (.pointing 307 "/moved"), .close] ++
        (sampleClient.stages sampleTarget.position sampleScript).references.left))).signature.Agrees
        (sampleClient.stages sampleTarget.position sampleScript).signature := by
  have hisolated := (survey_sequential_isolated sampleClient sampleTarget sampleScript).2.2.2.2.2
  exact ⟨sampleClient_takes, (hisolated.definition _ sampleClient_takes.1).2,
    (hisolated.references _ sampleClient_takes.2).2⟩

end LspProbe
