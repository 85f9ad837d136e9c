import LspProbe.Json.Skip
import LspProbe.Proofs.Json.Acceptance

/-!
# Texts can be skipped

Stepping over a value works on every text of the grammar, whatever the value and however deep it
nests: a text is longer than any text inside it, and a skipper allows as much nesting as the text
has bytes.
-/

namespace LspProbe.Json

private theorem skipString_plain {bytes : List UInt8} (h : ∀ b ∈ bytes, IsPlainByte b)
    (budget : Nat) (s : List UInt8) :
    skipString (bytes.length + budget) (bytes ++ s) = skipString budget s := by
  induction bytes with
  | nil => simp
  | cons b bytes ih =>
    obtain ⟨hquote, hbackslash, hcontrol⟩ := h b List.mem_cons_self
    have hlength : (b :: bytes).length + budget = (bytes.length + budget) + 1 := by
      simp only [List.length_cons]
      omega
    rw [hlength, List.cons_append, skipString, if_neg hquote, if_neg hbackslash, if_neg hcontrol]
    exact ih fun c hc => h c (List.mem_cons_of_mem b hc)

private theorem skipEscape_letter {b : UInt8} {c : Char} (h : IsEscape b c) (rest : List UInt8) :
    skipEscape (b :: rest) = .ok rest := by
  cases h <;> rfl

private theorem skipEscape_unit {u : Nat} {t : List UInt8} (h : IsUnit u t) (rest : List UInt8) :
    skipEscape (Ascii.lowerU :: (t ++ rest)) = .ok rest := by
  rw [skipEscape, if_pos rfl, unit_bytes h, ok_bind]

/-- One escape, then the rest of a string. -/
private theorem skipString_escape {s t : List UInt8} (h : skipEscape s = .ok t) (budget : Nat) :
    skipString (budget + 1) (Ascii.backslash :: s) = skipString budget t := by
  rw [skipString, if_neg (by decide), if_pos rfl, h, ok_bind]

theorem skipString_content {cs : List Char} {s : List UInt8} (h : IsContent cs s)
    (rest : List UInt8) {budget : Nat} (hbudget : s.length < budget) :
    skipString budget (s ++ Ascii.quote :: rest) = .ok rest := by
  induction h generalizing budget with
  | nil =>
    obtain ⟨budget, rfl⟩ := Nat.exists_eq_succ_of_ne_zero (Nat.ne_zero_of_lt hbudget)
    rfl
  | @plain c cs s hquote hbackslash hcontrol h ih =>
    rw [List.length_append] at hbudget
    obtain ⟨budget, rfl⟩ := Nat.exists_eq_add_of_le
      (show (String.utf8EncodeChar c).length ≤ budget by omega)
    rw [List.append_assoc,
      skipString_plain (isPlainByte_of_mem_utf8EncodeChar hquote hbackslash hcontrol)]
    exact ih (by omega)
  | @letter b c cs s hb h ih =>
    simp only [List.length_cons] at hbudget
    obtain ⟨budget, rfl⟩ := Nat.exists_eq_succ_of_ne_zero (Nat.ne_zero_of_lt hbudget)
    rw [List.cons_append, List.cons_append, skipString_escape (skipEscape_letter hb _)]
    exact ih (by omega)
  | @unit u t cs s hu hsurrogate h ih =>
    simp only [List.length_cons, List.length_append] at hbudget
    obtain ⟨budget, rfl⟩ := Nat.exists_eq_succ_of_ne_zero (Nat.ne_zero_of_lt hbudget)
    rw [List.cons_append, List.cons_append, List.append_assoc,
      skipString_escape (skipEscape_unit hu _)]
    exact ih (by omega)
  | @pair high low t t' cs s hhigh hhigh' hlow hlow' h ih =>
    -- A pair is stepped over as two escapes, each with a turn of its own.
    simp only [List.length_cons, List.length_append] at hbudget
    obtain ⟨budget, rfl⟩ := Nat.exists_eq_add_of_le' (show 2 ≤ budget by omega)
    rw [List.cons_append, List.cons_append, List.append_assoc, List.cons_append, List.cons_append,
      List.append_assoc, skipString_escape (skipEscape_unit hhigh _),
      skipString_escape (skipEscape_unit hlow _)]
    exact ih (by omega)

theorem skipString_quoted {cs : List Char} {s : List UInt8} (h : IsContent cs s)
    (rest : List UInt8) :
    skipString ((s ++ Ascii.quote :: rest).length + 1) (s ++ Ascii.quote :: rest) = .ok rest := by
  apply skipString_content h
  rw [List.length_append]
  omega

section Shorter

variable {α : Type} {P : Json → List UInt8 → Prop} {n : Nat}

theorem Padded.within {Q : List UInt8 → Prop} {s : List UInt8} (h : Padded Q s)
    (hn : s.length < n) : Padded (fun t => Q t ∧ t.length < n) s := by
  cases h with
  | @mk before t after hbefore h hafter =>
    simp only [List.length_append] at hn
    exact .mk hbefore ⟨h, by omega⟩ hafter

theorem Separated.within {Q : α → List UInt8 → Prop} {as : List α} {s : List UInt8}
    (h : Separated Q as s) (hn : s.length < n) :
    Separated (fun a t => Q a t ∧ t.length < n) as s := by
  induction h with
  | last h => exact .last ⟨h, hn⟩
  | @more a as s t h _ ih =>
    simp only [List.length_append, List.length_cons] at hn
    exact .more ⟨h, by omega⟩ (ih (by omega))

theorem IsMember.within {m : String × Json} {s : List UInt8} (h : IsMember P m s)
    (hn : s.length < n) : IsMember (fun v t => P v t ∧ t.length < n) m s := by
  cases h with
  | @mk key v s t hkey hvalue =>
    simp only [List.length_append, List.length_cons] at hn
    exact .mk hkey (hvalue.within (by omega))

/-- The texts that a list or an object holds are shorter than its own. -/
theorem IsContainer.shorter {v : Json} {s : List UInt8} (h : IsContainer P v s) :
    IsContainer (fun u t => P u t ∧ t.length < s.length) v s := by
  have hinside (b c : UInt8) (s : List UInt8) : s.length < (b :: (s ++ [c])).length := by
    simp only [List.length_cons, List.length_append, List.length_nil]
    omega
  cases h with
  | emptyList h => exact .emptyList h
  | list h =>
    exact .list ((h.within (hinside _ _ _)).mono fun v t ht => ht.1.within ht.2)
  | emptyObject h => exact .emptyObject h
  | object h =>
    exact .object ((h.within (hinside _ _ _)).mono fun m t ht => ht.1.within ht.2)

end Shorter

theorem skipWithin_scalar (depth : Nat) {v : Json} {s : List UInt8} (h : IsScalar v s) :
    Reads (skipWithin (depth + 1)) () s := by
  intro before rest hbefore hrest
  rw [skipWithin, skipBlanks_opens hbefore (isScalar_opens h)]
  cases h with
  | null => rfl
  | true => rfl
  | false => rfl
  | @positive l n s hl hsign hvalue =>
    have hliteral := literal_bytes .skipping hl hrest
    rw [hsign] at hliteral
    obtain ⟨d, t, hd, rfl⟩ := exists_digit_of_isLiteral hl
    obtain ⟨_, hother⟩ := digitByte_opens d hd
    simp only [List.mem_cons, List.not_mem_nil, not_or] at hother
    obtain ⟨_, _, hn, ht, hf, hminus, _⟩ := hother
    rw [List.cons_append] at hliteral ⊢
    dsimp only
    rw [if_neg hn, if_neg ht, if_neg hf, if_neg hminus, digit?_digitByte hd, Option.isSome_some,
      if_pos rfl, hliteral, ok_bind]
  | @negative l n s hl hsign hvalue =>
    have hliteral := literal_bytes .skipping hl hrest
    rw [hsign] at hliteral
    rw [List.cons_append]
    dsimp only
    rw [if_neg (by decide), if_neg (by decide), if_neg (by decide), if_pos rfl, hliteral, ok_bind]
  | str h =>
    cases h with
    | @mk s hcontent =>
      rw [List.cons_append, List.append_assoc, List.singleton_append]
      dsimp only
      rw [if_neg (by decide), if_neg (by decide), if_neg (by decide), if_neg (by decide),
        if_neg (by decide), if_pos rfl, skipString_quoted hcontent, ok_bind]

private theorem skipMember_follows {P : Json → List UInt8 → Prop} {item : Reader Unit}
    (hitem : ∀ v s, P v s → Reads item () s) :
    Follows P (skipMember item) fun _ _ => some () := by
  intro _ m s rest h hrest
  obtain ⟨content, t, u, hskip, hcontent, hcolon, hvalue⟩ := h.parts rest
  obtain ⟨after, hafter, hread⟩ := hvalue.view (fun s hs => (hitem m.2 s hs).views) hrest
  refine ⟨content ++ Ascii.quote :: t, after, hskip, hafter, ?_⟩
  rw [skipMember, skipString_quoted hcontent, ok_bind, hcolon, ok_bind]
  exact hread

theorem skipWithin_container {P : Json → List UInt8 → Prop} {depth : Nat}
    (hitem : ∀ v s, P v s → Reads (skipWithin depth) () s ∧ Opens s) {v : Json} {s : List UInt8}
    (h : IsContainer P v s) : Reads (skipWithin (depth + 1)) () s := by
  intro before rest hbefore hrest
  have hskip := skipBlanks_opens hbefore (isContainer_opens h) rest
  rw [skipWithin, hskip]
  cases h with
  | @emptyList s h =>
    rw [List.cons_append, List.append_assoc, List.singleton_append]
    change (list .skipping (skipWithin depth) _ >>= fun _ => _) = _
    rw [list_blanks .skipping _ h, ok_bind]
  | @list items s h =>
    rw [List.cons_append, List.append_assoc, List.singleton_append]
    change (list .skipping (skipWithin depth) _ >>= fun _ => _) = _
    rw [list_container (f := fun _ => ()) .skipping hitem h rest, ok_bind]
  | @emptyObject s h =>
    rw [List.cons_append, List.append_assoc, List.singleton_append]
    exact object_blanks .skipping _ () h rest
  | @object members s h =>
    have hobject := object_container .skipping
      (skipMember_follows fun v s hs => (hitem v s hs).1) h rest ()
    have hfold : members.foldlM (fun _ _ => some ()) () = some () := List.foldlM_pure
    rw [hfold] at hobject
    rw [List.cons_append, List.append_assoc, List.singleton_append]
    exact toOption_eq_some_iff.mp hobject

/-- A skipper takes every text that is shorter than the nesting it allows. -/
theorem skipWithin_isText {n : Nat} {v : Json} {s : List UInt8} (h : IsText n v s) {depth : Nat}
    (hdepth : s.length < depth) : Reads (skipWithin depth) () s := by
  obtain ⟨depth, rfl⟩ := Nat.exists_eq_succ_of_ne_zero (Nat.ne_zero_of_lt hdepth)
  induction n generalizing v s depth with
  | zero => exact skipWithin_scalar depth h
  | succ n ih =>
    rcases h with h | h
    · exact skipWithin_scalar depth h
    · refine skipWithin_container (fun v t ht => ⟨?_, isText_opens ht.1⟩) h.shorter
      obtain ⟨depth, rfl⟩ := Nat.exists_eq_succ_of_ne_zero (show depth ≠ 0 by omega)
      exact ih ht.1 depth (by omega)

theorem skip_isText {n : Nat} {v : Json} {s : List UInt8} (h : IsText n v s) :
    Reads skip () s := by
  intro before rest hbefore hrest
  refine skipWithin_isText h ?_ before rest hbefore hrest
  simp only [List.length_append]
  omega

end LspProbe.Json
