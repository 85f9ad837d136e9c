import LspProbe.Report.Text
import LspProbe.Text.Split
import Mathlib.Data.List.Basic

/-!
# Lines of a report

A report is made of lines. The entries of a reply are shown one after the other, each in lines of
its own, so an entry of another shape changes what is shown of itself and nothing else.
-/

namespace LspProbe

namespace Text

theorem splitAt_append (sep : Char) (before after : List Char) :
    splitAt sep (before ++ sep :: after) = splitAt sep before ++ splitAt sep after :=
  splitWhere_append _ sep (by simp) before after

private theorem splitAt_of_not_mem {sep : Char} {cs : List Char} (h : sep ∉ cs) :
    splitAt sep cs = [cs] := by
  induction cs with
  | nil => rfl
  | cons c rest ih =>
    rw [List.mem_cons, not_or] at h
    have hc : c ≠ sep := fun heq => h.1 heq.symm
    have hrest : splitWhere (· = sep) rest = [rest] := ih h.2
    simp [splitAt, splitWhere, hc, hrest]

/-- Lines that were joined come apart again. -/
theorem splitAt_joinLines {lines : List String} (hne : lines ≠ [])
    (h : ∀ line ∈ lines, '\n' ∉ line.toList) :
    splitAt '\n' (Report.joinLines lines).toList = lines.map String.toList := by
  induction lines with
  | nil => exact absurd rfl hne
  | cons line rest ih =>
    have hline := splitAt_of_not_mem (h line List.mem_cons_self)
    cases rest with
    | nil => simpa [Report.joinLines, String.intercalate_singleton] using hline
    | cons next rest =>
      have hrest := ih (by simp) fun l hl => h l (List.mem_cons_of_mem _ hl)
      have hjoin : (Report.joinLines (line :: next :: rest)).toList =
          line.toList ++ '\n' :: (Report.joinLines (next :: rest)).toList := by
        simp [Report.joinLines, String.intercalate_cons_cons]
      rw [hjoin, splitAt_append, hline, hrest]
      rfl

end Text

/-- Lists that agree but for some places. -/
structure AgreesOutside {α : Type} (places : List Nat) (as bs : List α) : Prop where
  length_eq : as.length = bs.length
  getElem?_eq : ∀ i, i ∉ places → as[i]? = bs[i]?

private theorem agreesOutside_map_set {α β : Type} (f : α → β) (as : List α) (j : Nat) (a : α) :
    AgreesOutside [j] ((as.set j a).map f) (as.map f) where
  length_eq := by simp
  getElem?_eq i hi := by
    rw [List.mem_singleton] at hi
    rw [List.getElem?_map, List.getElem?_map, List.getElem?_set_ne (Ne.symm hi)]

theorem SignatureReply.signatures_of_get? {members : Json.Members} {entries : List Json}
    (h : Json.Members.get? "signatures" members = some (.arr entries)) :
    (SignatureReply.mk (.obj members)).signatures = entries.map Signature.ofEntry := by
  rw [signatures, Json.get?, h]
  rfl

namespace Report

/-- The lines of each entry follow from its place and from nothing but itself. -/
private theorem numbered_map {α : Type} (lines : Nat → α → List String) (f : Json → α) (first : Nat)
    (entries : List Json) :
    numbered lines first (entries.map f) =
      (entries.mapIdx fun i entry => lines (i + first) (f entry)).flatten := by
  induction entries generalizing first with
  | nil => rfl
  | cons entry rest ih =>
    rw [List.map_cons, numbered, ih, List.mapIdx_cons, List.flatten_cons]
    simp only [Nat.zero_add, Nat.add_assoc, Nat.add_comm 1]

section

variable {α : Type} {lines : Nat → α → List String} {width : Nat}
  (hwidth : ∀ index a, (lines index a).length = width)

include hwidth

private theorem length_numbered (first : Nat) (as : List α) :
    (numbered lines first as).length = width * as.length := by
  induction as generalizing first with
  | nil => rfl
  | cons a rest ih =>
    rw [numbered, List.length_append, ih, hwidth, List.length_cons, Nat.mul_succ, Nat.add_comm]

/-- Where each entry has the same number of lines, those of an entry stand at a place that its
index tells. -/
private theorem getElem?_numbered {k : Nat} (hk : k < width) (first i : Nat) (as : List α) :
    (numbered lines first as)[width * i + k]? =
      as[i]?.bind fun a => (lines (first + i) a)[k]? := by
  induction as generalizing first i with
  | nil => rfl
  | cons a rest ih =>
    rw [numbered]
    cases i with
    | zero =>
      rw [Nat.mul_zero, Nat.zero_add, List.getElem?_append_left (by rw [hwidth]; exact hk)]
      rfl
    | succ i =>
      have hplace : width * (i + 1) + k = (lines first a).length + (width * i + k) := by
        rw [hwidth, Nat.mul_succ, Nat.add_comm (width * i), Nat.add_assoc]
      rw [hplace, List.getElem?_append_right (Nat.le_add_right _ _), Nat.add_sub_cancel_left, ih,
        List.getElem?_cons_succ, Nat.add_assoc, Nat.add_comm 1]

end

private theorem length_locationLines (index : Nat) (l : Location) :
    (locationLines index l).length = 2 :=
  rfl

theorem length_numbered_locationLines (first : Nat) (ls : List Location) :
    (numbered locationLines first ls).length = 2 * ls.length :=
  length_numbered length_locationLines first ls

/-- The line of a location's uri. -/
theorem getElem?_numbered_uri (first i : Nat) (ls : List Location) :
    (numbered locationLines first ls)[2 * i]? =
      ls[i]?.map fun l => entryLine (first + i) l.uri := by
  rw [Option.map_eq_bind]
  exact getElem?_numbered length_locationLines (show 0 < 2 by decide) first i ls

/-- The line of a location's range. -/
theorem getElem?_numbered_range (first i : Nat) (ls : List Location) :
    (numbered locationLines first ls)[2 * i + 1]? =
      ls[i]?.map fun l => "     range: " ++ rangeText l.range := by
  rw [Option.map_eq_bind]
  exact getElem?_numbered length_locationLines (show 1 < 2 by decide) first i ls

/-- The lines that an entry of a list of locations is shown in. -/
def locationBlock (i : Nat) (entry : Json) : List String :=
  locationLines (i + 1) (Location.ofEntry entry)

/-- The lines that an entry of a list of signatures is shown in. -/
def signatureBlock (i : Nat) (entry : Json) : List String :=
  signatureLines (i + 1) (Signature.ofEntry entry)

/-- The lines of a report: its status, a heading, and the lines of each entry. -/
def blocks (status heading : String) (block : Nat → Json → List String) (entries : List Json) :
    List String :=
  status :: heading :: (entries.mapIdx block).flatten

theorem outcomeLines_of_success {α : Type} {o : Outcome α} {data : α} (hsuccess : o.success = true)
    (hdata : o.data = some data) (kind : QueryKind) (body : α → List String) :
    outcomeLines kind body o = statusLine kind o :: body data := by
  rw [outcomeLines, shownData, if_pos hsuccess, hdata]

/-- The heading of a list of locations. -/
def heading (kind : QueryKind) (count : Nat) : String :=
  if count = 0 then "No " ++ noun kind ++ " found"
  else "Found " ++ toString count ++ " " ++ noun kind ++ ":"

theorem locationsBody_eq (kind : QueryKind) (l : Locations) :
    locationsBody kind l = heading kind l.items.length :: numbered locationLines 1 l.items := by
  rw [locationsBody, heading]
  cases l.items with
  | nil => rfl
  | cons first rest => rfl

theorem locations_eq_blocks (kind : QueryKind) (o : Outcome Locations) {entries : List Json}
    (hsuccess : o.success = true) (hdata : o.data = some ⟨.arr entries⟩) :
    locations kind o = joinLines
      (blocks (statusLine kind o) (heading kind entries.length) locationBlock entries) := by
  have hitems : (Locations.mk (.arr entries)).items = entries.map Location.ofEntry := rfl
  rw [locations, outcomeLines_of_success hsuccess hdata, locationsBody_eq, hitems,
    List.length_map, numbered_map]
  rfl

theorem signature_eq_blocks {o : Outcome SignatureReply} {members : Json.Members}
    {entries : List Json} (hne : entries ≠ [])
    (hentries : Json.Members.get? "signatures" members = some (.arr entries))
    (hsuccess : o.success = true) (hdata : o.data = some ⟨.obj members⟩) :
    signature o = joinLines
      (blocks (statusLine .signature o) ("Found " ++ toString entries.length ++ " signatures:")
        signatureBlock entries) := by
  rw [signature, outcomeLines_of_success hsuccess hdata, signaturesBody,
    SignatureReply.signatures_of_get? hentries, if_neg (by simpa using hne), List.length_map,
    numbered_map]
  rfl

/-- The lines that agree are those of the other entries, and the two above all of them. -/
private theorem agreesOutside_blocks_set (status heading : String) (entries : List Json) (j : Nat)
    (entry : Json) :
    AgreesOutside [2 + 2 * j, 3 + 2 * j]
      (blocks status heading locationBlock (entries.set j entry))
      (blocks status heading locationBlock entries) := by
  have hlines (es : List Json) : blocks status heading locationBlock es =
      status :: heading :: numbered locationLines 1 (es.map Location.ofEntry) := by
    rw [numbered_map]
    rfl
  rw [hlines, hlines]
  constructor
  · simp [length_numbered_locationLines]
  · intro i hi
    simp only [List.mem_cons, List.not_mem_nil, or_false, not_or] at hi
    obtain _ | _ | k := i
    · rfl
    · rfl
    · have hsame := (agreesOutside_map_set Location.ofEntry entries j entry).getElem?_eq (k / 2)
        (by rw [List.mem_singleton]; omega)
      simp only [List.getElem?_cons_succ]
      rcases Nat.mod_two_eq_zero_or_one k with hk | hk
      · rw [show k = 2 * (k / 2) by omega, getElem?_numbered_uri, getElem?_numbered_uri, hsame]
      · rw [show k = 2 * (k / 2) + 1 by omega, getElem?_numbered_range, getElem?_numbered_range,
          hsame]

/-- The text that documents an entry: a text, or the value of an object; never an empty one. -/
inductive Documents (entry : Json) (text : String) : Prop
  | plain (h : entry.get? "documentation" = some (.str text)) (hne : text ≠ "")
  | markup {members : Json.Members} (h : entry.get? "documentation" = some (.obj members))
      (hvalue : Json.Members.get? "value" members = some (.str text)) (hne : text ≠ "")

/-- The lines of a signature: one for its label, one if there is documentation, and one if there
are parameters. -/
inductive ShowsSignature (index : Nat) (entry : Json) : List String → Prop
  | mk {title : String} {documentation : Option String} {count : Option Nat}
      (htitle : entry.get? "label" = some (.str title) ∨
        (∀ label, entry.get? "label" ≠ some (.str label)) ∧ title = "N/A")
      (hdocumentation : ∀ text, documentation = some text ↔ Documents entry text)
      (hcount : ∀ n, count = some n ↔
        ∃ items, entry.get? "parameters" = some (.arr items) ∧ items ≠ [] ∧ items.length = n) :
      ShowsSignature index entry
        (("  " ++ toString index ++ ". " ++ title) ::
          (documentation.map fun text => "     documentation: " ++ text).toList ++
          (count.map fun n => "     parameters: " ++ toString n).toList)

private theorem documentationText_ofEntry (entry : Json) (text : String) :
    (Signature.ofEntry entry).documentationText = some text ↔ Documents entry text := by
  rw [Signature.documentationText, Option.filter_eq_some_iff, Option.bind_eq_some_iff,
    decide_eq_true_eq]
  constructor
  · rintro ⟨⟨value, hvalue, htext⟩, hne⟩
    have hentry := (Option.filter_eq_some_iff.mp hvalue).1
    cases value with
    | str s =>
      cases htext
      exact .plain hentry hne
    | obj members =>
      obtain ⟨u, hu, hs⟩ := Option.bind_eq_some_iff.mp htext
      cases u <;> cases hs
      exact .markup hentry hu hne
    | _ => cases htext
  · rintro (⟨h, hne⟩ | ⟨h, hvalue, hne⟩)
    · exact ⟨⟨.str text, Option.filter_eq_some_iff.mpr ⟨h, rfl⟩, rfl⟩, hne⟩
    · refine ⟨⟨_, Option.filter_eq_some_iff.mpr ⟨h, rfl⟩, ?_⟩, hne⟩
      rw [Signature.documentationOf, hvalue]
      rfl

private theorem label_ofEntry (entry : Json) :
    entry.get? "label" = some (.str ((Signature.ofEntry entry).label.getD "N/A")) ∨
      (∀ label, entry.get? "label" ≠ some (.str label)) ∧
        (Signature.ofEntry entry).label.getD "N/A" = "N/A" := by
  rw [Signature.ofEntry]
  cases entry.get? "label" with
  | none => exact .inr ⟨nofun, rfl⟩
  | some value =>
    cases value with
    | str label => exact .inl rfl
    | _ => exact .inr ⟨nofun, rfl⟩

private theorem parameters_ofEntry (entry : Json) (n : Nat) :
    (if (Signature.ofEntry entry).parameterCount = 0 then none
      else some (Signature.ofEntry entry).parameterCount) = some n ↔
      ∃ items, entry.get? "parameters" = some (.arr items) ∧ items ≠ [] ∧ items.length = n := by
  rw [Signature.parameterCount, Signature.ofEntry]
  cases entry.get? "parameters" with
  | none => simp
  | some value => cases value <;> simp [Json.asList?, List.length_eq_zero_iff]

theorem showsSignature_signatureBlock (i : Nat) (entry : Json) :
    ShowsSignature (i + 1) entry (signatureBlock i entry) := by
  have hdocumentation : documentationLine (Signature.ofEntry entry) =
      ((Signature.ofEntry entry).documentationText.map fun text =>
        "     documentation: " ++ text).toList := by
    rw [documentationLine]
    cases (Signature.ofEntry entry).documentationText <;> rfl
  have hparameters : parametersLine (Signature.ofEntry entry) =
      ((if (Signature.ofEntry entry).parameterCount = 0 then none
        else some (Signature.ofEntry entry).parameterCount).map fun n =>
          "     parameters: " ++ toString n).toList := by
    rw [parametersLine]
    split <;> rfl
  rw [signatureBlock, signatureLines, entryLine, hdocumentation, hparameters]
  exact .mk (label_ofEntry entry) (documentationText_ofEntry entry) (parameters_ofEntry entry)

end Report

/-- An entry that is replaced by any other changes its own item and the lines of that, wherever it
stands in a reply. -/
theorem replaced_entry_alters_only_itself {entries : List Json} {j : Nat}
    (hj : j < entries.length) (entry : Json) :
    ((Locations.mk (.arr (entries.set j entry))).items.length = entries.length ∧
      AgreesOutside [j] (Locations.mk (.arr (entries.set j entry))).items
        (Locations.mk (.arr entries)).items ∧
      ∀ (kind : QueryKind) (o : Outcome Locations),
        o.success = true → o.data = some ⟨.arr entries⟩ →
        let lines := Report.blocks (Report.statusLine kind o)
          ("Found " ++ toString entries.length ++ " " ++ Report.noun kind ++ ":")
          Report.locationBlock
        Report.locations kind o = Report.joinLines (lines entries) ∧
        Report.locations kind { o with data := some ⟨.arr (entries.set j entry)⟩ } =
          Report.joinLines (lines (entries.set j entry)) ∧
        AgreesOutside [2 + 2 * j, 3 + 2 * j] (lines (entries.set j entry)) (lines entries)) ∧
    (∀ members : Json.Members, Json.Members.get? "signatures" members = some (.arr entries) →
      (∀ members' : Json.Members,
        Json.Members.get? "signatures" members' = some (.arr (entries.set j entry)) →
        (SignatureReply.mk (.obj members')).signatures.length = entries.length ∧
        AgreesOutside [j] (SignatureReply.mk (.obj members')).signatures
          (SignatureReply.mk (.obj members)).signatures) ∧
      ∀ o : Outcome SignatureReply, o.success = true → o.data = some ⟨.obj members⟩ →
        Report.signature o = Report.joinLines
          (Report.blocks (Report.statusLine .signature o)
            ("Found " ++ toString entries.length ++ " signatures:") Report.signatureBlock
            entries)) ∧
    ∀ i x, Report.ShowsSignature (i + 1) x (Report.signatureBlock i x) := by
  have hne : entries ≠ [] := List.ne_nil_of_length_pos (Nat.zero_lt_of_lt hj)
  have hheading (kind : QueryKind) : Report.heading kind entries.length =
      "Found " ++ toString entries.length ++ " " ++ Report.noun kind ++ ":" :=
    if_neg (by omega)
  have hitems (es : List Json) : (Locations.mk (.arr es)).items = es.map Location.ofEntry := rfl
  refine ⟨⟨?_, ?_, fun kind o hsuccess hdata => ⟨?_, ?_, ?_⟩⟩, fun members hmembers =>
    ⟨fun members' hmembers' => ?_, fun o hsuccess hdata => ?_⟩,
    Report.showsSignature_signatureBlock⟩
  · rw [hitems, List.length_map, List.length_set]
  · exact agreesOutside_map_set Location.ofEntry entries j entry
  · rw [Report.locations_eq_blocks kind o hsuccess hdata, hheading]
  · rw [Report.locations_eq_blocks kind { o with data := some ⟨.arr (entries.set j entry)⟩ }
      hsuccess rfl, List.length_set, hheading]
    rfl
  · exact Report.agreesOutside_blocks_set _ _ entries j entry
  · rw [SignatureReply.signatures_of_get? hmembers, SignatureReply.signatures_of_get? hmembers',
      List.length_map, List.length_set]
    exact ⟨rfl, agreesOutside_map_set Signature.ofEntry entries j entry⟩
  · exact Report.signature_eq_blocks hne hmembers hsuccess hdata

private def mixedEntries : List Json :=
  [.obj [("label", .str "a()"), ("documentation", .obj [("value", .str "first")])],
    .obj [("label", .nat 7), ("parameters", .arr [.null, .null])],
    .obj [("documentation", .str ""), ("label", .str "c(y)"), ("parameters", .obj [])]]

private def mixedReply : Outcome SignatureReply :=
  .succeeded ⟨.obj [("signatures", .arr mixedEntries)]⟩ 200

/-- Entries whose fields have other types among those whose fields have not. -/
theorem mixed_entries_all_shown :
    1 < mixedEntries.length ∧
    AgreesOutside [1] (Locations.mk (.arr (mixedEntries.set 1 .null))).items
      (Locations.mk (.arr mixedEntries)).items ∧
    Report.signature mixedReply =
      Report.joinLines ["signature succeeded (status 200)", "Found 3 signatures:", "  1. a()",
        "     documentation: first", "  2. N/A", "     parameters: 2", "  3. c(y)"] := by
  have hlength : 1 < mixedEntries.length := by decide
  obtain ⟨⟨_, hitems, _⟩, hsignatures, _⟩ := replaced_entry_alters_only_itself hlength .null
  obtain ⟨_, htext⟩ := hsignatures [("signatures", .arr mixedEntries)] rfl
  have hlines : Report.blocks (Report.statusLine .signature mixedReply)
      ("Found " ++ toString mixedEntries.length ++ " signatures:") Report.signatureBlock
      mixedEntries = ["signature succeeded (status 200)", "Found 3 signatures:", "  1. a()",
        "     documentation: first", "  2. N/A", "     parameters: 2", "  3. c(y)"] := by
    decide +kernel
  refine ⟨hlength, hitems, ?_⟩
  rw [htext mixedReply rfl rfl, hlines]

end LspProbe
