import LspProbe.Proofs.Json.Numerals
import LspProbe.Proofs.Json.Rearrangement
import LspProbe.Proofs.Steps
import LspProbe.Reply.Locations
import LspProbe.Reply.Signatures

/-!
# Equality of bodies

Whether two bodies are equal does not depend on how they are viewed, and equal bodies show the
same locations and signatures. Bodies are equal by what they hold: the order of members, the
blanks of a text and the sign of a zero play no part.
-/

namespace LspProbe

namespace Json

private theorem get?_canonical (key : String) (v : Json) :
    v.canonical.get? key = (v.get? key).map canonical := by
  cases v with
  | obj members => exact Members.get?_canonicalMembers key members
  | _ => rfl

private theorem asString?_canonical (v : Json) : v.canonical.asString? = v.asString? := by
  cases v <;> rfl

private theorem asList?_canonical (v : Json) :
    v.canonical.asList? = v.asList?.map (·.map canonical) := by
  cases v with
  | arr items => exact congrArg some (canonicalItems_eq_map items)
  | _ => rfl

private theorem isNull_canonical (v : Json) : v.canonical.isNull = v.isNull := by
  cases v <;> rfl

end Json

open Json

namespace Location

def canonical (l : Location) : Location := ⟨l.uri, l.range.map Json.canonical⟩

theorem same_iff_canonical_eq {a b : Location} : a.same b = true ↔ a.canonical = b.canonical := by
  rw [same, Bool.and_eq_true, beq_iff_eq, sameOption_iff_canonical_eq, canonical, canonical,
    mk.injEq]

private theorem ofEntry_canonical (v : Json) : ofEntry v.canonical = (ofEntry v).canonical := by
  rw [ofEntry, ofEntry, canonical, get?_canonical, get?_canonical]
  cases v.get? "uri" with
  | none => rfl
  | some uri => simp [asString?_canonical]

end Location

namespace Locations

theorem sameItems_iff_map_eq {items others : List Location} :
    sameItems items others = true ↔
      items.map Location.canonical = others.map Location.canonical := by
  induction items generalizing others with
  | nil => cases others <;> simp [sameItems]
  | cons a rest ih =>
    cases others with
    | nil => simp [sameItems]
    | cons b others =>
      simp only [sameItems, Bool.and_eq_true, Location.same_iff_canonical_eq, ih, List.map_cons,
        List.cons.injEq]

theorem items_canonical (v : Json) :
    (Locations.mk v.canonical).items = (Locations.mk v).items.map Location.canonical := by
  rw [items, items, asList?_canonical]
  cases v.asList? with
  | none => rfl
  | some entries => simp [Location.ofEntry_canonical]

theorem isEmpty_canonical (v : Json) :
    (Locations.mk v.canonical).isEmpty = (Locations.mk v).isEmpty := by
  rw [isEmpty, isEmpty, asList?_canonical]
  cases v.asList? with
  | none => rfl
  | some entries => simp

end Locations

namespace Signature

def canonical (s : Signature) : Signature :=
  ⟨s.label, s.documentation.map Json.canonical, s.parameters.map Json.canonical⟩

theorem same_iff_canonical_eq {a b : Signature} :
    a.same b = true ↔ a.canonical = b.canonical := by
  rw [same, Bool.and_eq_true, Bool.and_eq_true, beq_iff_eq, sameOption_iff_canonical_eq,
    Json.sameItems_iff_map_eq, canonical, canonical, mk.injEq, and_assoc]

private theorem ofEntry_canonical (v : Json) : ofEntry v.canonical = (ofEntry v).canonical := by
  have hlabel : (v.canonical.get? "label").bind asString? = (v.get? "label").bind asString? := by
    rw [get?_canonical]
    cases v.get? "label" with
    | none => rfl
    | some label => exact asString?_canonical label
  have hdocumentation : (v.canonical.get? "documentation").filter (!·.isNull) =
      ((v.get? "documentation").filter (!·.isNull)).map Json.canonical := by
    rw [get?_canonical]
    cases v.get? "documentation" with
    | none => rfl
    | some d =>
      rw [Option.map_some, Option.filter, Option.filter, isNull_canonical]
      cases d.isNull <;> rfl
  have hparameters : ((v.canonical.get? "parameters").bind asList?).getD [] =
      (((v.get? "parameters").bind asList?).getD []).map Json.canonical := by
    rw [get?_canonical]
    cases v.get? "parameters" with
    | none => rfl
    | some p =>
      rw [Option.map_some, Option.bind_some, Option.bind_some, asList?_canonical]
      cases p.asList? <;> rfl
  rw [ofEntry, hlabel, hdocumentation, hparameters]
  rfl

end Signature

namespace SignatureReply

private theorem sameSignatures_iff_map_eq {signatures others : List Signature} :
    sameSignatures signatures others = true ↔
      signatures.map Signature.canonical = others.map Signature.canonical := by
  induction signatures generalizing others with
  | nil => cases others <;> simp [sameSignatures]
  | cons a rest ih =>
    cases others with
    | nil => simp [sameSignatures]
    | cons b others =>
      simp only [sameSignatures, Bool.and_eq_true, Signature.same_iff_canonical_eq, ih,
        List.map_cons, List.cons.injEq]

theorem signatures_canonical (v : Json) :
    (SignatureReply.mk v.canonical).signatures =
      (SignatureReply.mk v).signatures.map Signature.canonical := by
  rw [signatures, signatures, get?_canonical]
  cases v.get? "signatures" with
  | none => rfl
  | some list =>
    rw [Option.map_some, Option.bind_some, Option.bind_some, asList?_canonical]
    cases list.asList? with
    | none => rfl
    | some entries => simp [Signature.ofEntry_canonical]

end SignatureReply

/-- Two bodies show the same. -/
structure ShowAlike (u v : Json) : Prop where
  items : Locations.sameItems (Locations.mk u).items (Locations.mk v).items = true
  signatures : SignatureReply.sameSignatures (SignatureReply.mk u).signatures
    (SignatureReply.mk v).signatures = true
  isEmpty : (Locations.mk u).isEmpty = (Locations.mk v).isEmpty

theorem showAlike_of_same {u v : Json} (h : u.same v = true) : ShowAlike u v := by
  have heq := (same_iff_canonical_eq u v).mp h
  refine { items := ?_, signatures := ?_, isEmpty := ?_ }
  · apply Locations.sameItems_iff_map_eq.mpr
    rw [← Locations.items_canonical, heq, Locations.items_canonical]
  · apply SignatureReply.sameSignatures_iff_map_eq.mpr
    rw [← SignatureReply.signatures_canonical, heq, SignatureReply.signatures_canonical]
  · rw [← Locations.isEmpty_canonical, heq, Locations.isEmpty_canonical]

theorem Locations.same_equivalence : Equivalence fun a b : Locations => a.same b = true where
  refl _ := (same_iff_canonical_eq _ _).mpr rfl
  symm h := (same_iff_canonical_eq _ _).mpr ((same_iff_canonical_eq _ _).mp h).symm
  trans h h' := (same_iff_canonical_eq _ _).mpr
    (((same_iff_canonical_eq _ _).mp h).trans ((same_iff_canonical_eq _ _).mp h'))

private theorem padded_self (s : List UInt8) : Padded (· = s) s := by
  have h : Padded (· = s) ([] ++ (s ++ [])) := .mk nofun rfl nofun
  rwa [List.nil_append, List.append_nil] at h

private theorem padded_space (s : List UInt8) : Padded (· = s) (0x20 :: s) := by
  have hspace : Blanks [0x20] := List.forall_mem_singleton.mpr rfl
  have h : Padded (· = s) ([0x20] ++ (s ++ [])) := .mk hspace rfl nofun
  rwa [List.append_nil] at h

private def orderedBody : String := "[\x7b\"a\":-0,\"b\":null\x7d]"

private def shuffledBody : String := "[ \x7b\"b\":null, \"a\":-0\x7d]"

private theorem rearrangedText_shuffledBody :
    RearrangedText (Utf8.encode orderedBody) (Utf8.encode shuffledBody) := by
  let a : Shared := ⟨"a", [0x22, 0x61, 0x22], [0x2D, 0x30], [0x2D, 0x30]⟩
  let b : Shared := ⟨"b", [0x22, 0x62, 0x22], [0x6E, 0x75, 0x6C, 0x6C], [0x6E, 0x75, 0x6C, 0x6C]⟩
  have ha : IsQuoted a.key a.name :=
    @IsQuoted.mk "a" [0x61] (.plain (by decide) (by decide) (by decide) .nil)
  have hb : IsQuoted b.key b.name :=
    @IsQuoted.mk "b" [0x62] (.plain (by decide) (by decide) (by decide) .nil)
  have hzero : Rearranged a.first a.second := .scalar (isScalar_of_isIntegral .negativeZero)
  have hnull : Rearranged b.first b.second := .scalar .null
  have hfirst (m : Shared) := IsMemberText.mk (padded_self m.name) (padded_self m.first)
  have hsecond (m : Shared) := IsMemberText.mk (padded_self m.name) (padded_self m.second)
  have hspaced (m : Shared) := IsMemberText.mk (padded_space m.name) (padded_self m.second)
  have hobject := Rearranged.object (.more (hfirst a) (.last (hfirst b)))
    (.more (hsecond b) (.last (hspaced a))) (by simp [ha, hb])
    (.inr ⟨.swap b a [], by simp [a, b]⟩) (by simp [hzero, hnull])
  have hitems : ∀ item ∈ [(_, _)], Rearranged item.1 item.2 :=
    List.forall_mem_singleton.mpr hobject
  have hlist := Rearranged.list (.last (padded_self _)) (.last (padded_space _)) hitems
  exact .mk (padded_self _) (padded_self _) hlist

/-- Equality of bodies is an equivalence and the same for both views. Of two accepted texts it
holds exactly if the values are equal in every part, and then both views show the same. Texts with
the same tokens, but for blanks and for the order of members with distinct keys, are equal. -/
theorem equal_bodies_show_alike {s t : List UInt8} {u v : Json} (hu : parse s = .ok u)
    (hv : parse t = .ok v) :
    (Equivalence fun a b : Locations => a.same b = true) ∧
    (Locations.mk u).same ⟨v⟩ = (SignatureReply.mk u).same ⟨v⟩ ∧
    ((Locations.mk u).same ⟨v⟩ = true ↔ u.Equal v) ∧
    ((Locations.mk u).same ⟨v⟩ = true → ShowAlike u v) ∧
    RearrangedText s s ∧ (RearrangedText s t → (Locations.mk u).same ⟨v⟩ = true) := by
  refine ⟨Locations.same_equivalence, rfl, ?_, showAlike_of_same, rearrangedText_of_parse hu, ?_⟩
  · exact same_iff_equal (regular_of_parse hu) (regular_of_parse hv)
  · intro h
    rw [h.eq_of_parse hu hv]
    exact Locations.same_equivalence.refl ⟨v⟩

/-- A zero with a minus, blanks and two members in either order. -/
theorem shuffled_bodies_show_alike :
    ∃ u v, parse (Utf8.encode orderedBody) = .ok u ∧ parse (Utf8.encode shuffledBody) = .ok v ∧
      RearrangedText (Utf8.encode orderedBody) (Utf8.encode shuffledBody) ∧
      (Locations.mk u).same ⟨v⟩ = true ∧ ShowAlike u v := by
  have hordered : (parse (Utf8.encode orderedBody)).toOption.isSome = true := by decide +kernel
  have hshuffled : (parse (Utf8.encode shuffledBody)).toOption.isSome = true := by decide +kernel
  obtain ⟨u, hu⟩ := Option.isSome_iff_exists.mp hordered
  obtain ⟨v, hv⟩ := Option.isSome_iff_exists.mp hshuffled
  rw [toOption_eq_some_iff] at hu hv
  obtain ⟨_, _, _, hshow, _, hsame⟩ := equal_bodies_show_alike hu hv
  have hequal := hsame rearrangedText_shuffledBody
  exact ⟨u, v, hu, hv, rearrangedText_shuffledBody, hequal, hshow hequal⟩

end LspProbe
