import LspProbe.Proofs.Json.Equivalence

/-!
# Rearranged texts

Two texts may have the same tokens and still differ: in the blanks between them, and in the order
of the members of an object that repeats no key. Such texts stand for the same value. Every text
that is read is such a rearrangement of itself.
-/

namespace LspProbe.Json

/-- A member that stands in two texts: its key, how the key is written in both, and how its value
is written in each. -/
structure Shared where
  key : String
  name : List UInt8
  first : List UInt8
  second : List UInt8

/-- The text of a member, given those of its key and its value. -/
inductive IsMemberText (name value : List UInt8) : List UInt8 → Prop
  | mk {s t : List UInt8} (hname : Padded (· = name) s) (hvalue : Padded (· = value) t) :
      IsMemberText name value (s ++ Ascii.colon :: t)

/-- Two texts with the same tokens, but for blanks between them and for the order of members of
objects with distinct keys. -/
inductive Rearranged : List UInt8 → List UInt8 → Prop
  | scalar {v : Json} {s : List UInt8} (h : IsScalar v s) : Rearranged s s
  | emptyList {s t : List UInt8} (hs : Blanks s) (ht : Blanks t) :
      Rearranged (Ascii.openBracket :: (s ++ [Ascii.closeBracket]))
        (Ascii.openBracket :: (t ++ [Ascii.closeBracket]))
  | list {items : List (List UInt8 × List UInt8)} {s t : List UInt8}
      (hs : Separated (fun item => Padded (· = item.1)) items s)
      (ht : Separated (fun item => Padded (· = item.2)) items t)
      (h : ∀ item ∈ items, Rearranged item.1 item.2) :
      Rearranged (Ascii.openBracket :: (s ++ [Ascii.closeBracket]))
        (Ascii.openBracket :: (t ++ [Ascii.closeBracket]))
  | emptyObject {s t : List UInt8} (hs : Blanks s) (ht : Blanks t) :
      Rearranged (Ascii.openBrace :: (s ++ [Ascii.closeBrace]))
        (Ascii.openBrace :: (t ++ [Ascii.closeBrace]))
  | object {ms ns : List Shared} {s t : List UInt8}
      (hs : Separated (fun m => IsMemberText m.name m.first) ms s)
      (ht : Separated (fun m => IsMemberText m.name m.second) ns t)
      (hkey : ∀ m ∈ ms, IsQuoted m.key m.name)
      (horder : ns = ms ∨ ms.Perm ns ∧ ms.Pairwise fun m l => m.key ≠ l.key)
      (h : ∀ m ∈ ms, Rearranged m.first m.second) :
      Rearranged (Ascii.openBrace :: (s ++ [Ascii.closeBrace]))
        (Ascii.openBrace :: (t ++ [Ascii.closeBrace]))

/-- Rearranged texts with blanks around them. -/
inductive RearrangedText : List UInt8 → List UInt8 → Prop
  | mk {s t s' t' : List UInt8} (hs : Padded (· = s') s) (ht : Padded (· = t') t)
      (h : Rearranged s' t') : RearrangedText s t

theorem Padded.imp {P Q : List UInt8 → Prop} (hPQ : ∀ s, P s → Q s) {s : List UInt8}
    (h : Padded P s) : Padded Q s := by
  cases h with
  | mk hbefore h hafter => exact .mk hbefore (hPQ _ h) hafter

theorem Separated.map {α β : Type} {A : α → List UInt8 → Prop} {B : β → List UInt8 → Prop}
    {f : α → β} {as : List α} {s : List UInt8} (h : Separated A as s)
    (hAB : ∀ a ∈ as, ∀ s, A a s → B (f a) s) : Separated B (as.map f) s := by
  induction h with
  | last h => exact .last (hAB _ List.mem_cons_self _ h)
  | more h _ ih =>
    refine .more (hAB _ List.mem_cons_self _ h) (ih fun a ha => ?_)
    exact hAB a (List.mem_cons_of_mem _ ha)

theorem IsMemberText.isMember {P : Json → List UInt8 → Prop} {key : String}
    {name value s : List UInt8} {v : Json} (hkey : IsQuoted key name) (hvalue : P v value)
    (h : IsMemberText name value s) : IsMember P (key, v) s := by
  cases h with
  | mk hname ht =>
    refine .mk (hname.imp fun _ hs => ?_) (ht.imp fun _ ht => ?_)
    · exact hs ▸ hkey
    · exact ht ▸ hvalue

theorem IsText.succ {n : Nat} {v : Json} {s : List UInt8} (h : IsText n v s) :
    IsText (n + 1) v s := by
  induction n generalizing v s with
  | zero => exact .inl h
  | succ n ih => exact h.imp_right fun h => h.mono fun v s hv => ih hv

theorem IsText.of_le {n m : Nat} (hnm : n ≤ m) {v : Json} {s : List UInt8} (h : IsText n v s) :
    IsText m v s := by
  induction hnm with
  | refl => exact h
  | step _ ih => exact ih.succ

/-- Two texts of one value. -/
def ShareValue (n : Nat) (s t : List UInt8) : Prop := ∃ v, IsText n v s ∧ IsText n v t

/-- Finitely many pairs of texts need no more nesting than one of them. -/
private theorem exists_nesting {α : Type} {f g : α → List UInt8} {as : List α}
    (h : ∀ a ∈ as, ∃ n, ShareValue n (f a) (g a)) :
    ∃ n, ∀ a ∈ as, ShareValue n (f a) (g a) := by
  have hmono {n m : Nat} (hnm : n ≤ m) {s t : List UInt8} (h : ShareValue n s t) :
      ShareValue m s t := by
    obtain ⟨v, hs, ht⟩ := h
    exact ⟨v, hs.of_le hnm, ht.of_le hnm⟩
  induction as with
  | nil => exact ⟨0, by simp⟩
  | cons a rest ih =>
    obtain ⟨n, hn⟩ := h a List.mem_cons_self
    obtain ⟨m, hm⟩ := ih fun b hb => h b (List.mem_cons_of_mem a hb)
    refine ⟨max n m, List.forall_mem_cons.mpr ⟨hmono (Nat.le_max_left n m) hn, ?_⟩⟩
    exact fun b hb => hmono (Nat.le_max_right n m) (hm b hb)

/-- A value for each pair of texts. -/
private theorem exists_values {α : Type} {f g : α → List UInt8} {as : List α}
    (h : ∀ a ∈ as, ∃ n, ShareValue n (f a) (g a)) :
    ∃ n, ∃ value : α → Json, ∀ a ∈ as, IsText n (value a) (f a) ∧ IsText n (value a) (g a) := by
  obtain ⟨n, hn⟩ := exists_nesting h
  have hvalue (a : α) : ∃ v, a ∈ as → IsText n v (f a) ∧ IsText n v (g a) := by
    by_cases ha : a ∈ as
    · obtain ⟨v, hv⟩ := hn a ha
      exact ⟨v, fun _ => hv⟩
    · exact ⟨.null, fun h => absurd h ha⟩
  exact ⟨n, fun a => (hvalue a).choose, fun a => (hvalue a).choose_spec⟩

theorem Rearranged.shareValue {s t : List UInt8} (h : Rearranged s t) :
    ∃ n, ShareValue n s t := by
  induction h with
  | scalar h => exact ⟨0, _, h, h⟩
  | emptyList hs ht => exact ⟨1, _, .inr (.emptyList hs), .inr (.emptyList ht)⟩
  | emptyObject hs ht => exact ⟨1, _, .inr (.emptyObject hs), .inr (.emptyObject ht)⟩
  | @list items s t hs ht _ ih =>
    obtain ⟨n, value, hvalue⟩ := exists_values ih
    refine ⟨n + 1, .arr (items.map value), .inr (.list (hs.map ?_)), .inr (.list (ht.map ?_))⟩
    · exact fun item hitem s hs => hs.imp fun _ h => h ▸ (hvalue item hitem).1
    · exact fun item hitem s hs => hs.imp fun _ h => h ▸ (hvalue item hitem).2
  | @object ms ns s t hs ht hkey horder _ ih =>
    obtain ⟨n, value, hvalue⟩ := exists_values ih
    have hmem : ∀ m ∈ ns, m ∈ ms := by
      rcases horder with rfl | ⟨hperm, _⟩
      · exact fun m hm => hm
      · exact fun m hm => hperm.mem_iff.mpr hm
    have hs' : Separated (IsMember (IsText n)) (ms.map fun m => (m.key, value m)) s :=
      hs.map fun m hm s h => h.isMember (hkey m hm) (hvalue m hm).1
    have ht' : Separated (IsMember (IsText n)) (ns.map fun m => (m.key, value m)) t :=
      ht.map fun m hm s h => h.isMember (hkey m (hmem m hm)) (hvalue m (hmem m hm)).2
    have hmembers : Members.ofList (ms.map fun m => (m.key, value m)) =
        Members.ofList (ns.map fun m => (m.key, value m)) := by
      rcases horder with rfl | ⟨hperm, hdistinct⟩
      · rfl
      · exact Members.ofList_eq_of_perm (List.pairwise_map.mpr hdistinct) (hperm.map _)
    exact ⟨n + 1, _, .inr (.object hs'), .inr (hmembers ▸ .object ht')⟩

/-- A text that is read has no other value, whatever nesting it is seen with. -/
theorem eq_of_parse {n : Nat} {v u : Json} {s : List UInt8} (h : Padded (IsText n v) s)
    (hparse : parse s = .ok u) : u = v := by
  have hvalue {n : Nat} {v : Json} (h : Padded (IsText n v) s) :
      ∃ rest, value n s = .ok (v, rest) := by
    cases h with
    | mk hbefore ht hafter =>
      have hends := EndsNumber.blanks_append hafter (show EndsNumber [] by simp [EndsNumber])
      rw [List.append_nil] at hends
      exact ⟨_, value_isText ht _ _ hbefore hends⟩
  obtain ⟨rest, hv⟩ := hvalue h
  obtain ⟨rest', hu⟩ := hvalue (parse_eq_ok_iff.mp hparse)
  -- One reader that allows enough nesting for both views reads the text once.
  have hv := value_extends (Nat.le_max_left n maxNesting) _ _ hv
  have hu := value_extends (Nat.le_max_right n maxNesting) _ _ hu
  rw [hv] at hu
  exact (congrArg Prod.fst (Except.ok.inj hu)).symm

/-- Rearranged texts stand for one value. -/
theorem RearrangedText.eq_of_parse {s t : List UInt8} (h : RearrangedText s t) {u v : Json}
    (hu : parse s = .ok u) (hv : parse t = .ok v) : u = v := by
  cases h with
  | mk hs ht h =>
    obtain ⟨n, w, hsw, htw⟩ := h.shareValue
    have hs' : Padded (IsText n w) s := hs.imp fun _ hs => hs ▸ hsw
    have ht' : Padded (IsText n w) t := ht.imp fun _ ht => ht ▸ htw
    rw [Json.eq_of_parse hs' hu, Json.eq_of_parse ht' hv]

private theorem Separated.exists_parts {α β : Type} {A : α → List UInt8 → Prop}
    {B : β → List UInt8 → Prop} (hAB : ∀ a s, A a s → ∃ b, B b s) {as : List α} {s : List UInt8}
    (h : Separated A as s) : ∃ bs, Separated B bs s := by
  induction h with
  | last h =>
    obtain ⟨b, hb⟩ := hAB _ _ h
    exact ⟨[b], .last hb⟩
  | more h _ ih =>
    obtain ⟨b, hb⟩ := hAB _ _ h
    obtain ⟨bs, hbs⟩ := ih
    exact ⟨b :: bs, .more hb hbs⟩

theorem IsContainer.rearranged {P : Json → List UInt8 → Prop}
    (hP : ∀ v s, P v s → Rearranged s s) {v : Json} {s : List UInt8} (h : IsContainer P v s) :
    Rearranged s s := by
  cases h with
  | emptyList h => exact .emptyList h h
  | emptyObject h => exact .emptyObject h h
  | @list items s h =>
    have hparts : ∀ v s, Padded (P v) s →
        ∃ t : List UInt8, Padded (· = t) s ∧ Rearranged t t := by
      rintro v _ ⟨hbefore, hv, hafter⟩
      exact ⟨_, .mk hbefore rfl hafter, hP _ _ hv⟩
    obtain ⟨parts, hparts⟩ := h.exists_parts hparts
    have hs := hparts.map (f := fun t => (t, t)) (B := fun item => Padded (· = item.1))
      fun _ _ _ h => h.1
    have ht := hparts.map (f := fun t => (t, t)) (B := fun item => Padded (· = item.2))
      fun _ _ _ h => h.1
    refine .list hs ht fun item hitem => ?_
    obtain ⟨t, ht, rfl⟩ := List.mem_map.mp hitem
    exact hparts.forall_mem (Q := fun t => Rearranged t t) (fun _ _ h => h.2) t ht
  | @object members s h =>
    have hparts : ∀ m s, IsMember P m s → ∃ m : Shared,
        m.first = m.second ∧ IsMemberText m.name m.first s ∧ IsQuoted m.key m.name ∧
        Rearranged m.first m.second := by
      rintro _ _ ⟨⟨hbefore, hkey, hafter⟩, ⟨hbefore', hv, hafter'⟩⟩
      exact ⟨⟨_, _, _, _⟩, rfl, .mk (.mk hbefore rfl hafter) (.mk hbefore' rfl hafter'), hkey,
        hP _ _ hv⟩
    obtain ⟨ms, hms⟩ := h.exists_parts hparts
    have hs := hms.mono fun m s h => h.2.1
    have ht := hms.mono (B := fun m => IsMemberText m.name m.second) fun m s h => h.1 ▸ h.2.1
    refine .object hs ht ?_ (.inl rfl) ?_
    · exact hms.forall_mem fun m s h => h.2.2.1
    · exact hms.forall_mem fun m s h => h.2.2.2

theorem IsText.rearranged {n : Nat} {v : Json} {s : List UInt8} (h : IsText n v s) :
    Rearranged s s := by
  induction n generalizing v s with
  | zero => exact .scalar h
  | succ n ih =>
    rcases h with h | h
    · exact .scalar h
    · exact h.rearranged fun v s hv => ih hv

/-- Every text that is read is a rearrangement of itself. -/
theorem rearrangedText_of_parse {s : List UInt8} {v : Json} (h : parse s = .ok v) :
    RearrangedText s s := by
  cases parse_eq_ok_iff.mp h with
  | mk hbefore ht hafter =>
    exact .mk (.mk hbefore rfl hafter) (.mk hbefore rfl hafter) ht.rearranged

end LspProbe.Json
