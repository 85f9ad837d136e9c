import LspProbe.Proofs.Bodies
import LspProbe.Proofs.Characters
import LspProbe.Proofs.Json.Equality
import LspProbe.Proofs.Json.RoundTrip

/-!
# Bodies are passed through

An accepted body without doubles keeps its value through every view of it, and its compact text
stands for that value and no other.
-/

namespace LspProbe

open Http

namespace Json

section

variable {body other : List UInt8} {v u : Json}

theorem parse_compact (h : parse body = .ok v) (hfree : v.isFloatFree = true) :
    parse (Utf8.encode v.compact) = .ok v := by
  obtain ⟨hkept, hdepth⟩ := parse_kept h
  have hparse := parse_write Layout.compact_isBlank (hkept.exact hfree) 0 hdepth
  rwa [hkept.ordered_eq] at hparse

theorem compact_eq_iff (hv : parse body = .ok v) (hvfree : v.isFloatFree = true)
    (hu : parse other = .ok u) (hufree : u.isFloatFree = true) :
    v.compact = u.compact ↔ v = u := by
  constructor
  · intro h
    have hread := parse_compact hv hvfree
    rw [h, parse_compact hu hufree] at hread
    exact (Except.ok.inj hread).symm
  · rintro rfl
    rfl

end

end Json

/-- A view of values gives them back, and a record in which a value is viewed and given back stays
as it is. -/
structure PassesThrough {α : Type} (view : Json → α) (body : α → Json) (v : Json) : Prop where
  value : body (view v) = v
  compact : (body (view v)).compact = v.compact
  record : ∀ o : Outcome Json, o.data = some v →
    (o.map view).data = some (view v) ∧ (o.map view).map body = o
  printed : ∀ o : Outcome Json, o.data = some v →
    ((o.map view).map body).toJson.compact = o.toJson.compact

theorem passesThrough_of_body {α : Type} {view : Json → α} {body : α → Json} {v : Json}
    (h : body (view v) = v) : PassesThrough view body v := by
  have hrecord (o : Outcome Json) (ho : o.data = some v) : (o.map view).map body = o := by
    apply Outcome.map_map_of_inverse
    rw [ho]
    rintro _ ⟨⟩
    exact h
  exact
    { value := h
      compact := by rw [h]
      record := fun o ho => ⟨by rw [Outcome.data_map, ho, Option.map_some], hrecord o ho⟩
      printed := fun o ho => by rw [hrecord o ho] }

/-- The data of a query that ends with a body is that body's value, whatever view of it is taken. -/
private theorem Client.data_of_receives {c : Client} {q : Query} {script : Script}
    {body : List UInt8} {v : Json} (h : c.Receives q script body)
    (hbody : Json.parse body = .ok v) :
    (c.ask q script).result.data = some v := by
  rw [result_of_receives h, hbody]
  rfl

/-- Accepted bodies are written without control characters. Those without doubles pass through
every view and query unchanged, and their compact texts stand for them. -/
theorem accepted_bodies_pass_through {body : List UInt8} {v : Json}
    (hbody : Json.parse body = .ok v) :
    (∀ ch ∈ v.compact.toList, 0x20 ≤ ch.toNat) ∧
    (v.isFloatFree = true →
      PassesThrough Locations.mk Locations.body v ∧
      PassesThrough SignatureReply.mk SignatureReply.body v ∧
      (∀ (c : Client) (p : Position) (includeDeclaration : Bool) (script : Script),
        (c.Receives (.definition p) script body →
          (c.findDefinition p script).result.data.map Locations.body = some v) ∧
        (c.Receives (.references p includeDeclaration) script body →
          (c.findReferences p includeDeclaration script).result.data.map Locations.body =
            some v) ∧
        (c.Receives (.signature p) script body →
          (c.signatureHelp p script).result.data.map SignatureReply.body = some v)) ∧
      Json.parse (Utf8.encode v.compact) = .ok v ∧
      (Json.parse (Utf8.encode v.compact)).map Json.compact = .ok v.compact ∧
      ∀ other u, Json.parse other = .ok u → u.isFloatFree = true →
        (v.compact = u.compact ↔ v.same u = true) ∧ (v.same u = true ↔ v = u)) := by
  refine ⟨Json.only_isShown_compact v, fun hfree => ?_⟩
  have hcompact := Json.parse_compact hbody hfree
  refine ⟨passesThrough_of_body rfl, passesThrough_of_body rfl, ?_, hcompact, ?_, ?_⟩
  · intro c p includeDeclaration script
    have hdata {α : Type} (view : Json → α) (unview : α → Json) (hview : unview (view v) = v)
        (q : Query) (h : c.Receives q script body) :
        ((c.ask q script).result.map view).data.map unview = some v := by
      rw [Outcome.data_map, Client.data_of_receives h hbody, Option.map_some, Option.map_some,
        hview]
    exact ⟨hdata Locations.mk Locations.body rfl _, hdata Locations.mk Locations.body rfl _,
      hdata SignatureReply.mk SignatureReply.body rfl _⟩
  · rw [hcompact]
    rfl
  · intro other u hother hufree
    have hsame := Json.same_iff hfree u
    exact ⟨(Json.compact_eq_iff hbody hfree hother hufree).trans hsame.symm, hsame⟩

private def spacedText : String :=
  "\x7b \"b\": \"\\u0001\\ud83d\\ude00\", \"a\": -1, \"a\": 18446744073709551615 \x7d"

private def spacedValue : Json :=
  .obj [("a", .num (.int 18446744073709551615)), ("b", .str "\x01😀")]

private theorem parse_spacedText : Json.parse (Utf8.encode spacedText) = .ok spacedValue :=
  Json.parse_eq_of_same (by decide) (by decide +kernel)

/-- Blanks, a repeated key, a control character, a pair of escapes and the largest integer. -/
theorem spaced_body_passes_through :
    Json.parse (Utf8.encode spacedText) = .ok spacedValue ∧ spacedValue.isFloatFree = true ∧
    PassesThrough SignatureReply.mk SignatureReply.body spacedValue ∧
    Json.parse (Utf8.encode spacedValue.compact) = .ok spacedValue := by
  have hfree : spacedValue.isFloatFree = true := by decide
  obtain ⟨_, hpass⟩ := accepted_bodies_pass_through parse_spacedText
  obtain ⟨_, hsignature, _, hcompact, _⟩ := hpass hfree
  exact ⟨parse_spacedText, hfree, hsignature, hcompact⟩

end LspProbe
