import LspProbe.Proofs.Json.Equality
import LspProbe.Proofs.Json.Skipping
import LspProbe.Proofs.Json.Written
import LspProbe.Query.Position.Reader

/-!
# Positions and values

A position is read straight from a text, by a reader of its own. Whatever text the reader of
values accepts, the two agree: the position is the one that the value denotes, and a text is
refused exactly if its value denotes none or it names a field twice.
-/

namespace LspProbe

namespace Json

/-- An integer that fits 32 bits. -/
def asCoordinate? : Json → Option UInt32
  | .num (.int i) => if 0 ≤ i ∧ i < 0x100000000 then some (UInt32.ofNat i.toNat) else none
  | _ => none

private theorem asString?_eq_some_iff {v : Json} {s : String} :
    v.asString? = some s ↔ v = .str s := by
  cases v <;> simp [asString?]

theorem asCoordinate?_eq_some_iff {v : Json} {n : UInt32} :
    v.asCoordinate? = some n ↔ v = .nat n.toNat := by
  constructor
  · intro h
    unfold asCoordinate? at h
    split at h
    · next i =>
      obtain ⟨hrange, h⟩ := Option.ite_none_right_eq_some.mp h
      have hn := congrArg UInt32.toNat (Option.some.inj h)
      rw [UInt32.toNat_ofNat_of_lt' (show i.toNat < 2 ^ 32 by omega)] at hn
      rw [nat, ← hn, Int.toNat_of_nonneg hrange.1]
    · cases h
  · rintro rfl
    have hlt := n.toNat_lt
    have hrange : (0 : Int) ≤ n.toNat ∧ (n.toNat : Int) < 0x100000000 := by omega
    rw [nat, asCoordinate?, if_pos hrange, Int.toNat_natCast, UInt32.ofNat_toNat]

/-- The bytes that texts of a value start with. -/
def Starts : Json → UInt8 → Prop
  | .null, b => b = Ascii.lowerN
  | .bool true, b => b = Ascii.lowerT
  | .bool false, b => b = Ascii.lowerF
  | .num _, b => b = Ascii.minus ∨ ∃ d < 10, b = digitByte d
  | .str _, b => b = Ascii.quote
  | .arr _, b => b = Ascii.openBracket
  | .obj _, b => b = Ascii.openBrace

private theorem isScalar_starts {v : Json} {s : List UInt8} (h : IsScalar v s) :
    ∃ b t, s = b :: t ∧ v.Starts b := by
  cases h with
  | null => exact ⟨_, _, rfl, rfl⟩
  | true => exact ⟨_, _, rfl, rfl⟩
  | false => exact ⟨_, _, rfl, rfl⟩
  | positive hl _ _ =>
    obtain ⟨d, t, hd, rfl⟩ := exists_digit_of_isLiteral hl
    exact ⟨_, _, rfl, .inr ⟨d, hd, rfl⟩⟩
  | negative _ _ _ => exact ⟨_, _, rfl, .inl rfl⟩
  | str h =>
    cases h
    exact ⟨_, _, rfl, rfl⟩

private theorem isText_starts {n : Nat} {v : Json} {s : List UInt8} (h : IsText n v s) :
    ∃ b t, s = b :: t ∧ v.Starts b := by
  cases n with
  | zero => exact isScalar_starts h
  | succ n =>
    rcases h with h | h
    · exact isScalar_starts h
    · cases h <;> exact ⟨_, _, rfl, rfl⟩

private theorem digitByte_starts : ∀ d < 10, digitByte d ∉ [Ascii.quote, Ascii.openBracket,
    Ascii.openBrace, Ascii.minus] := by
  decide

private theorem Starts.of_quote {v : Json} (h : v.Starts Ascii.quote) : ∃ s, v = .str s := by
  cases v with
  | str s => exact ⟨s, rfl⟩
  | bool b => cases b <;> cases h
  | num n =>
    rcases h with h | ⟨d, hd, h⟩
    · cases h
    · exact absurd (h ▸ List.mem_cons_self) (digitByte_starts d hd)
  | _ => cases h

private theorem Starts.of_number {v : Json} {b : UInt8} (h : v.Starts b)
    (hb : b = Ascii.minus ∨ (Ascii.digit? b).isSome = true) : ∃ n, v = .num n := by
  cases v with
  | num n => exact ⟨n, rfl⟩
  | bool c => cases c <;> cases h <;> exact absurd hb (by decide)
  | _ => cases h; exact absurd hb (by decide)

private theorem isQuoted_of_isText {n : Nat} {text : String} {s : List UInt8}
    (h : IsText n (.str text) s) : IsQuoted text s := by
  cases n with
  | zero => cases h with | str h => exact h
  | succ n =>
    rcases h with h | h
    · cases h with | str h => exact h
    · cases h

private theorem isScalar_of_isText {n : Nat} {m : Number} {s : List UInt8}
    (h : IsText n (.num m) s) :
    IsScalar (.num m) s := by
  cases n with
  | zero => exact h
  | succ n =>
    rcases h with h | h
    · exact h
    · cases h

end Json

namespace Position

open Json

private theorem stringValue_views {n : Nat} {v : Json} {s : List UInt8} (h : IsText n v s) :
    Views stringValue v.asString? s := by
  intro before rest hbefore hrest
  rw [stringValue, skipBlanks_opens hbefore (isText_opens h)]
  obtain ⟨b, t, rfl, hstarts⟩ := isText_starts h
  rw [List.cons_append]
  dsimp only
  by_cases hb : b = Ascii.quote
  · subst hb
    obtain ⟨text, rfl⟩ := hstarts.of_quote
    have hquoted := isQuoted_of_isText h
    cases hquoted with
    | mk hcontent =>
      rw [if_pos rfl, List.append_assoc, List.singleton_append, string_content hcontent]
      rfl
  · have hnone : v.asString? = none := by
      cases v with
      | str text => exact absurd hstarts hb
      | _ => rfl
    rw [if_neg hb, hnone]
    rfl

private theorem toOption_coordinateOf (n : Number) (rest : List UInt8) :
    (coordinateOf n rest).toOption = (Json.num n).asCoordinate?.map (·, rest) := by
  cases n with
  | int i =>
    rw [coordinateOf, asCoordinate?]
    split <;> rfl
  | float x => rfl

private theorem coordinate_views {n : Nat} {v : Json} {s : List UInt8} (h : IsText n v s) :
    Views coordinate v.asCoordinate? s := by
  intro before rest hbefore hrest
  rw [coordinate, skipBlanks_opens hbefore (isText_opens h)]
  obtain ⟨b, t, hs, hstarts⟩ := isText_starts h
  by_cases hb : b = Ascii.minus ∨ (Ascii.digit? b).isSome = true
  · obtain ⟨m, rfl⟩ := hstarts.of_number hb
    have hscalar := isScalar_of_isText h
    cases hscalar with
    | @positive l _ _ hl hsign hvalue =>
      have hnumber := number_bytes hl hvalue hrest
      obtain ⟨d, u, hd, rfl⟩ := exists_digit_of_isLiteral hl
      have hother := digitByte_starts d hd
      simp only [List.mem_cons, not_or] at hother
      rw [hsign] at hnumber
      rw [List.cons_append] at hnumber ⊢
      dsimp only
      rw [if_neg hother.2.2.2.1, digit?_digitByte hd, Option.isSome_some, if_pos rfl, hnumber,
        ok_bind]
      exact toOption_coordinateOf m rest
    | @negative l _ _ hl hsign hvalue =>
      have hnumber := number_bytes hl hvalue hrest
      rw [hsign] at hnumber
      rw [List.cons_append]
      dsimp only
      rw [if_pos rfl, hnumber, ok_bind]
      exact toOption_coordinateOf m rest
  · have hnone : v.asCoordinate? = none := by
      cases v with
      | num m =>
        rcases hstarts with rfl | ⟨d, hd, rfl⟩
        · exact absurd (.inl rfl) hb
        · exact absurd (.inr (by rw [digit?_digitByte hd]; rfl)) hb
      | _ => rfl
    rw [not_or] at hb
    rw [hs, List.cons_append, hnone]
    dsimp only
    rw [if_neg hb.1, if_neg hb.2]
    rfl

/-- A field takes one value; a second one is refused. -/
def fill {α : Type} (view : Json → Option α) (seen : Option α) (v : Json) : Option (Option α) :=
  if seen.isSome then none else (view v).map some

/-- The fields once a member has been taken. Members of other keys change nothing. -/
def Fields.take (f : Fields) (m : String × Json) : Option Fields :=
  if m.1 = "uri" then (fill asString? f.uri m.2).map fun x => { f with uri := x }
  else if m.1 = "line" then (fill asCoordinate? f.line m.2).map fun x => { f with line := x }
  else if m.1 = "character" then
    (fill asCoordinate? f.character m.2).map fun x => { f with character := x }
  else some f

/-- A field is read into a state by the view of its value. -/
private theorem field_view {α : Type} {name : String} {item : Reader α} {view : Json → Option α}
    {P : Json → List UInt8 → Prop} {v : Json} (hitem : ∀ s, P v s → Views item (view v) s)
    {t u rest : List UInt8} (hcolon : colon t = .ok (u ++ rest)) (h : Padded (P v) u)
    (hrest : EndsNumber rest) (seen : Option α) (update : Option α → Fields) :
    ∃ after, Blanks after ∧
      (field name seen item t >>= fun r => .ok (update (some r.1), r.2)).toOption =
        ((fill view seen v).map update).map (·, after ++ rest) := by
  obtain ⟨after, hafter, hview⟩ := h.view hitem hrest
  refine ⟨after, hafter, ?_⟩
  rw [toOption_bind, field, fill]
  split
  · rfl
  · rw [hcolon, ok_bind, hview]
    cases view v <;> rfl

private theorem member_follows (n : Nat) : Follows (IsText n) member Fields.take := by
  intro f m s rest h hrest
  obtain ⟨content, t, u, hskip, hcontent, hcolon, hvalue⟩ := h.parts rest
  suffices hmember : ∃ after, Blanks after ∧
      (member f (content ++ Ascii.quote :: t)).toOption = (f.take m).map (·, after ++ rest) by
    obtain ⟨after, hafter, hread⟩ := hmember
    exact ⟨_, after, hskip, hafter, hread⟩
  rw [member, string_content hcontent, ok_bind, Fields.take]
  dsimp only
  by_cases huri : m.1 = "uri"
  · rw [if_pos huri, if_pos huri]
    exact field_view (fun s hs => stringValue_views hs) hcolon hvalue hrest f.uri
      fun x => { f with uri := x }
  by_cases hline : m.1 = "line"
  · rw [if_neg huri, if_neg huri, if_pos hline, if_pos hline]
    exact field_view (fun s hs => coordinate_views hs) hcolon hvalue hrest f.line
      fun x => { f with line := x }
  by_cases hcharacter : m.1 = "character"
  · rw [if_neg huri, if_neg huri, if_neg hline, if_neg hline, if_pos hcharacter,
      if_pos hcharacter]
    exact field_view (fun s hs => coordinate_views hs) hcolon hvalue hrest f.character
      fun x => { f with character := x }
  · obtain ⟨after, hafter, hread⟩ := hvalue.view (fun s hs => (skip_isText hs).views) hrest
    refine ⟨after, hafter, ?_⟩
    rw [if_neg huri, if_neg huri, if_neg hline, if_neg hline, if_neg hcharacter,
      if_neg hcharacter, hcolon, ok_bind, toOption_bind, hread]
    rfl

/-- The fields that members fill do not depend on each other. -/
private theorem foldlM_take_eq_some_iff {ms : Members} {f g : Fields} :
    ms.foldlM Fields.take f = some g ↔
      (Members.getAll "uri" ms).foldlM (fill asString?) f.uri = some g.uri ∧
      (Members.getAll "line" ms).foldlM (fill asCoordinate?) f.line = some g.line ∧
      (Members.getAll "character" ms).foldlM (fill asCoordinate?) f.character =
        some g.character := by
  induction ms generalizing f with
  | nil =>
    obtain ⟨uri, line, character⟩ := f
    obtain ⟨uri', line', character'⟩ := g
    simp [Members.getAll]
  | cons m rest ih =>
    obtain ⟨key, v⟩ := m
    simp only [List.foldlM_cons, Fields.take, Members.getAll]
    by_cases huri : key = "uri"
    · subst huri
      cases hfill : fill asString? f.uri v with
      | none => simp [hfill]
      | some x => simp [hfill, ih]
    by_cases hline : key = "line"
    · subst hline
      cases hfill : fill asCoordinate? f.line v with
      | none => simp [hfill]
      | some x => simp [hfill, ih]
    by_cases hcharacter : key = "character"
    · subst hcharacter
      cases hfill : fill asCoordinate? f.character v with
      | none => simp [hfill]
      | some x => simp [hfill, ih]
    · simp [huri, hline, hcharacter, ih]

/-- A field is there exactly if one member names it, with a value that it takes. -/
private theorem foldlM_fill_eq_some_iff {α : Type} {view : Json → Option α} {vs : List Json}
    {a : α} :
    vs.foldlM (fill view) none = some (some a) ↔ ∃ v, vs = [v] ∧ view v = some a := by
  cases vs with
  | nil => simp
  | cons v rest =>
    rw [List.foldlM_cons, fill, if_neg (by simp)]
    cases hview : view v with
    | none => simp [hview]
    | some b =>
      cases rest with
      | nil => simp [hview]
      | cons u rest => simp [List.foldlM_cons, fill]

/-- The position of members as they are written. -/
def ofMembers? (ms : Members) : Option Position :=
  (ms.foldlM Fields.take { }).bind fun f => (ofFields f []).toOption.map Prod.fst

private theorem toOption_ofFields (f : Fields) (rest : List UInt8) :
    (ofFields f rest).toOption = ((ofFields f []).toOption.map Prod.fst).map (·, rest) := by
  obtain ⟨uri, line, character⟩ := f
  cases uri <;> cases line <;> cases character <;> rfl

theorem ofFields_eq_some_iff {f : Fields} {p : Position} :
    (ofFields f []).toOption.map Prod.fst = some p ↔
      f.uri = some p.uri ∧ f.line = some p.line ∧ f.character = some p.character := by
  obtain ⟨uri, line, character⟩ := f
  obtain ⟨uri', line', character'⟩ := p
  cases uri <;> cases line <;> cases character <;> simp [ofFields, Except.toOption]

/-- Members are a position if each of its fields is named once, with a value that it takes. -/
theorem ofMembers?_eq_some_iff {ms : Members} {p : Position} :
    ofMembers? ms = some p ↔
      Members.getAll "uri" ms = [.str p.uri] ∧
      Members.getAll "line" ms = [.nat p.line.toNat] ∧
      Members.getAll "character" ms = [.nat p.character.toNat] := by
  have hfields : ofMembers? ms = some p ↔
      ms.foldlM Fields.take { } = some ⟨some p.uri, some p.line, some p.character⟩ := by
    rw [ofMembers?, Option.bind_eq_some_iff]
    constructor
    · rintro ⟨⟨uri, line, character⟩, hfold, hf⟩
      obtain ⟨rfl, rfl, rfl⟩ := ofFields_eq_some_iff.mp hf
      exact hfold
    · intro hfold
      exact ⟨_, hfold, ofFields_eq_some_iff.mpr ⟨rfl, rfl, rfl⟩⟩
  rw [hfields, foldlM_take_eq_some_iff, foldlM_fill_eq_some_iff, foldlM_fill_eq_some_iff,
    foldlM_fill_eq_some_iff]
  simp only [asString?_eq_some_iff, asCoordinate?_eq_some_iff, exists_eq_right]

theorem reader_object {n : Nat} {ms : Members} {s : List UInt8}
    (h : Separated (IsMember (IsText n)) ms s) :
    Views reader (ofMembers? ms) (Ascii.openBrace :: (s ++ [Ascii.closeBrace])) := by
  intro before rest hbefore hrest
  have hobject := object_container .keeping (member_follows n) h rest { }
  rw [reader, skipBlanks_append hbefore, List.cons_append, skipBlanks_cons (by decide)]
  dsimp only
  rw [if_neg (by decide), if_pos rfl, List.append_assoc, List.singleton_append, toOption_bind,
    hobject, ofMembers?]
  cases ms.foldlM Fields.take { } with
  | none => rfl
  | some f => exact toOption_ofFields f rest

private theorem reader_emptyObject {s : List UInt8} (h : Blanks s) :
    Views reader none (Ascii.openBrace :: (s ++ [Ascii.closeBrace])) := by
  intro before rest hbefore hrest
  rw [reader, skipBlanks_append hbefore, List.cons_append, skipBlanks_cons (by decide)]
  dsimp only
  rw [if_neg (by decide), if_pos rfl, List.append_assoc, List.singleton_append,
    object_blanks .keeping member { } h, ok_bind]
  rfl

/-- What follows an item of a list: its end, or a comma and the items that are left. -/
inductive IsTail (P : Json → List UInt8 → Prop) : List Json → List UInt8 → Prop
  | close : IsTail P [] [Ascii.closeBracket]
  | more {vs : List Json} {s : List UInt8} (h : Separated (fun v => Padded (P v)) vs s) :
      IsTail P vs (Ascii.comma :: (s ++ [Ascii.closeBracket]))

section Items

variable {α : Type} {P : Json → List UInt8 → Prop} {item : Reader α} {view : Json → Option α}

private theorem IsTail.endsNumber {vs : List Json} {s : List UInt8} (h : IsTail P vs s)
    (rest : List UInt8) : EndsNumber (s ++ rest) := by
  cases h with
  | close => exact endsNumber_cons (by simp) _
  | more h => exact endsNumber_cons (by simp) _

/-- The first item of a list, after any blanks; those behind it and the other items are left. -/
private theorem item_view (hitem : ∀ v s, P v s → Views item (view v) s ∧ Opens s) {vs : List Json}
    {s : List UInt8} (h : Separated (fun v => Padded (P v)) vs s) (rest : List UInt8) :
    ∃ after tail, Blanks after ∧ IsTail P vs.tail tail ∧
      (item (skipBlanks (s ++ Ascii.closeBracket :: rest))).toOption =
        (vs.head?.bind view).map (·, after ++ (tail ++ rest)) := by
  cases h with
  | @last v s h =>
    have htail : IsTail P [] [Ascii.closeBracket] := .close
    obtain ⟨after, hafter, hview⟩ := h.view_skipBlanks (hitem v) (htail.endsNumber rest)
    exact ⟨after, _, hafter, htail, hview⟩
  | @more v vs s t h hrest =>
    have htail := IsTail.more hrest
    obtain ⟨after, hafter, hview⟩ := h.view_skipBlanks (hitem v) (htail.endsNumber rest)
    refine ⟨after, _, hafter, htail, ?_⟩
    simpa only [List.append_assoc, List.cons_append, List.nil_append, List.head?_cons,
      Option.bind_some] using hview

private theorem opens_of_separated (hitem : ∀ v s, P v s → Views item (view v) s ∧ Opens s)
    {vs : List Json} {s : List UInt8} (h : Separated (fun v => Padded (P v)) vs s)
    (rest : List UInt8) : Opens (skipBlanks (s ++ rest)) :=
  h.opens (fun v _ rest hv => hv.opens (fun s hs => (hitem v s hs).2) rest) rest

private theorem nth_zero (hitem : ∀ v s, P v s → Views item (view v) s ∧ Opens s) {vs : List Json}
    {s : List UInt8} (h : Separated (fun v => Padded (P v)) vs s) (rest : List UInt8) :
    ∃ after tail, Blanks after ∧ IsTail P vs.tail tail ∧
      (nth 0 item (s ++ Ascii.closeBracket :: rest)).toOption =
        (vs.head?.bind view).map (·, after ++ (tail ++ rest)) := by
  obtain ⟨after, tail, hafter, htail, hview⟩ := item_view hitem h rest
  obtain ⟨b, t, ht, _, hb, _⟩ := opens_of_separated hitem h (Ascii.closeBracket :: rest)
  refine ⟨after, tail, hafter, htail, ?_⟩
  rw [ht] at hview
  rw [nth, ht]
  dsimp only
  rw [if_neg hb, if_pos rfl, hview]

private theorem nth_succ (hitem : ∀ v s, P v s → Views item (view v) s ∧ Opens s) (count : Nat)
    {vs : List Json} {before s : List UInt8} (hbefore : Blanks before) (h : IsTail P vs s)
    (rest : List UInt8) :
    ∃ after tail, Blanks after ∧ IsTail P vs.tail tail ∧
      (nth (count + 1) item (before ++ (s ++ rest))).toOption =
        (vs.head?.bind view).map (·, after ++ (tail ++ rest)) := by
  cases h with
  | close =>
    refine ⟨[], _, by simp [Blanks], .close, ?_⟩
    rw [nth, skipBlanks_append hbefore, List.singleton_append, skipBlanks_cons (by decide)]
    rfl
  | @more vs s h =>
    obtain ⟨after, tail, hafter, htail, hview⟩ := item_view hitem h rest
    obtain ⟨b, t, ht, _, hb, _⟩ := opens_of_separated hitem h (Ascii.closeBracket :: rest)
    refine ⟨after, tail, hafter, htail, ?_⟩
    rw [ht] at hview
    rw [nth, skipBlanks_append hbefore, List.cons_append, skipBlanks_cons (by decide),
      List.append_assoc, List.singleton_append]
    dsimp only
    rw [if_neg (by decide), if_neg (Nat.succ_ne_zero count), if_pos rfl, ht]
    dsimp only
    rw [if_neg hb, hview]

private theorem toOption_closing {vs : List Json} {before s : List UInt8} (hbefore : Blanks before)
    (h : IsTail P vs s) (rest : List UInt8) (hP : ∀ v t, P v t → Opens t) :
    (closing (before ++ (s ++ rest))).toOption = if vs = [] then some rest else none := by
  cases h with
  | close =>
    rw [closing, skipBlanks_append hbefore, List.singleton_append, skipBlanks_cons (by decide)]
    rfl
  | @more vs s h =>
    have hne : vs ≠ [] := by cases h <;> simp
    obtain ⟨b, t, ht, _, hb, _⟩ := h.opens (fun v _ rest hv => hv.opens (hP v) rest)
      (Ascii.closeBracket :: rest)
    rw [closing, skipBlanks_append hbefore, List.cons_append, skipBlanks_cons (by decide),
      List.append_assoc, List.singleton_append]
    dsimp only
    rw [if_neg (by decide), if_pos rfl, ht, if_neg hne]
    dsimp only
    rw [if_neg hb]
    rfl

end Items

/-- The position of a list of values. -/
def ofItems? (vs : List Json) : Option Position :=
  (vs.head?.bind asString?).bind fun uri =>
    (vs.tail.head?.bind asCoordinate?).bind fun line =>
      (vs.tail.tail.head?.bind asCoordinate?).bind fun character =>
        if vs.tail.tail.tail = [] then some ⟨uri, line, character⟩ else none

theorem ofItems?_eq_some_iff {vs : List Json} {p : Position} :
    ofItems? vs = some p ↔
      vs = [.str p.uri, .nat p.line.toNat, .nat p.character.toNat] := by
  obtain ⟨uri, line, character⟩ := p
  rw [ofItems?]
  constructor
  · intro h
    simp only [Option.bind_eq_some_iff, Option.ite_none_right_eq_some, asString?_eq_some_iff,
      asCoordinate?_eq_some_iff] at h
    obtain ⟨_, ⟨a, ha, hstr⟩, _, ⟨b, hb, hline⟩, _, ⟨c, hc, hcharacter⟩, hend, hp⟩ := h
    obtain ⟨huri, hline', hcharacter'⟩ := Position.mk.inj (Option.some.inj hp)
    obtain ⟨as, rfl⟩ := List.head?_eq_some_iff.mp ha
    obtain ⟨bs, rfl⟩ := List.head?_eq_some_iff.mp hb
    obtain ⟨cs, rfl⟩ := List.head?_eq_some_iff.mp hc
    obtain rfl : cs = [] := hend
    rw [hstr, hline, hcharacter, huri, hline', hcharacter']
  · rintro rfl
    have hcoordinate (n : UInt32) : (Json.nat n.toNat).asCoordinate? = some n :=
      asCoordinate?_eq_some_iff.mpr rfl
    rw [List.tail_cons, List.tail_cons, List.head?_cons, List.head?_cons, List.head?_cons,
      Option.bind_some, Option.bind_some, Option.bind_some, hcoordinate, hcoordinate]
    rfl

theorem reader_list {n : Nat} {vs : List Json} {s : List UInt8}
    (h : Separated (fun v => Padded (IsText n v)) vs s) :
    Views reader (ofItems? vs) (Ascii.openBracket :: (s ++ [Ascii.closeBracket])) := by
  intro before rest hbefore hrest
  have hstring (v : Json) (t : List UInt8) (ht : IsText n v t) :
      Views stringValue v.asString? t ∧ Opens t := ⟨stringValue_views ht, isText_opens ht⟩
  have hcoordinate (v : Json) (t : List UInt8) (ht : IsText n v t) :
      Views coordinate v.asCoordinate? t ∧ Opens t := ⟨coordinate_views ht, isText_opens ht⟩
  obtain ⟨after, tail, hafter, htail, huri⟩ := nth_zero hstring h rest
  obtain ⟨after', tail', hafter', htail', hline⟩ := nth_succ hcoordinate 0 hafter htail rest
  obtain ⟨after'', tail'', hafter'', htail'', hcharacter⟩ :=
    nth_succ hcoordinate 1 hafter' htail' rest
  have hclosing := toOption_closing hafter'' htail'' rest fun v t ht => isText_opens ht
  rw [reader, skipBlanks_append hbefore, List.cons_append, skipBlanks_cons (by decide)]
  dsimp only
  rw [if_pos rfl, List.append_assoc, List.singleton_append, toOption_bind, huri, ofItems?]
  cases vs.head?.bind asString? with
  | none => rfl
  | some uri =>
    rw [Option.map_some, Option.bind_some, Option.bind_some]
    dsimp only
    rw [toOption_bind, hline]
    cases vs.tail.head?.bind asCoordinate? with
    | none => rfl
    | some line =>
      rw [Option.map_some, Option.bind_some, Option.bind_some]
      dsimp only
      rw [toOption_bind, hcharacter]
      cases vs.tail.tail.head?.bind asCoordinate? with
      | none => rfl
      | some character =>
        rw [Option.map_some, Option.bind_some, Option.bind_some]
        dsimp only
        rw [toOption_bind, hclosing]
        split <;> rfl

private theorem reader_emptyList {s : List UInt8} (h : Blanks s) :
    Views reader none (Ascii.openBracket :: (s ++ [Ascii.closeBracket])) := by
  intro before rest hbefore hrest
  rw [reader, skipBlanks_append hbefore, List.cons_append, skipBlanks_cons (by decide)]
  dsimp only
  rw [if_pos rfl, List.append_assoc, List.singleton_append, nth, skipBlanks_append h,
    skipBlanks_cons (by decide)]
  rfl

theorem reader_scalar {v : Json} {s : List UInt8} (h : IsScalar v s) : Views reader none s := by
  intro before rest hbefore hrest
  obtain ⟨b, t, rfl, hstarts⟩ := isScalar_starts h
  have hb : b ≠ Ascii.openBracket ∧ b ≠ Ascii.openBrace := by
    cases v with
    | null => cases hstarts; decide
    | bool c => cases c <;> cases hstarts <;> decide
    | num n =>
      rcases hstarts with rfl | ⟨d, hd, rfl⟩
      · decide
      · have hother := digitByte_starts d hd
        simp only [List.mem_cons, not_or] at hother
        exact ⟨hother.2.1, hother.2.2.1⟩
    | str text => cases hstarts; decide
    | arr vs => cases h
    | obj ms => cases h
  rw [reader, skipBlanks_opens hbefore (isScalar_opens h), List.cons_append]
  dsimp only
  rw [if_neg hb.1, if_neg hb.2]
  rfl

theorem toOption_parse {p? : Option Position} {before s after : List UInt8}
    (hbefore : Blanks before) (h : Views reader p? s) (hafter : Blanks after) :
    (parse (before ++ (s ++ after))).toOption = p? := by
  have hends : EndsNumber (after ++ []) :=
    EndsNumber.blanks_append hafter (by simp [EndsNumber])
  rw [List.append_nil] at hends
  rw [parse, toOption_bind, h before after hbefore hends]
  cases p? with
  | none => rfl
  | some p =>
    rw [Option.map_some, Option.bind_some]
    dsimp only
    rw [finish_eq_ok_iff.mpr hafter]
    rfl

end Position

namespace Json

/-- A value that denotes a position: an object with its fields, or a list of them in order. -/
inductive Denotes : Json → Position → Prop
  | object {members : Members} {p : Position}
      (huri : Members.get? "uri" members = some (.str p.uri))
      (hline : Members.get? "line" members = some (.nat p.line.toNat))
      (hcharacter : Members.get? "character" members = some (.nat p.character.toNat)) :
      Denotes (.obj members) p
  | list (p : Position) :
      Denotes (.arr [.str p.uri, .nat p.line.toNat, .nat p.character.toNat]) p

/-- A field by its key in an object or by its place in a list. -/
def field? (key : String) (place : Nat) : Json → Option Json
  | .obj members => Members.get? key members
  | .arr items => items[place]?
  | _ => none

/-- Values that are no coordinate: null, doubles, whole ones too, and integers beyond 32 bits. -/
inductive IsNoCoordinate : Json → Prop
  | null : IsNoCoordinate .null
  | float (x : Binary64) : IsNoCoordinate (.num (.float x))
  | int {i : Int} (h : i < 0 ∨ 0x100000000 ≤ i) : IsNoCoordinate (.num (.int i))

theorem Denotes.fields {v : Json} {p : Position} (h : v.Denotes p) :
    v.field? "uri" 0 = some (.str p.uri) ∧ v.field? "line" 1 = some (.nat p.line.toNat) ∧
      v.field? "character" 2 = some (.nat p.character.toNat) := by
  cases h with
  | object huri hline hcharacter => exact ⟨huri, hline, hcharacter⟩
  | list p => exact ⟨rfl, rfl, rfl⟩

private theorem not_isNoCoordinate_nat (n : UInt32) : ¬(Json.nat n.toNat).IsNoCoordinate := by
  have hlt := n.toNat_lt
  rintro (_ | _ | ⟨h⟩)
  omega

theorem denotes_arr_iff {vs : List Json} {p : Position} :
    (Json.arr vs).Denotes p ↔
      vs = [.str p.uri, .nat p.line.toNat, .nat p.character.toNat] := by
  constructor
  · rintro (_ | ⟨_⟩)
    rfl
  · rintro rfl
    exact .list p

theorem denotes_obj_iff {members : Members} {p : Position} :
    (Json.obj members).Denotes p ↔
      Members.get? "uri" members = some (.str p.uri) ∧
      Members.get? "line" members = some (.nat p.line.toNat) ∧
      Members.get? "character" members = some (.nat p.character.toNat) := by
  constructor
  · rintro (⟨huri, hline, hcharacter⟩ | _)
    exact ⟨huri, hline, hcharacter⟩
  · rintro ⟨huri, hline, hcharacter⟩
    exact .object huri hline hcharacter

/-- No field of a position is named twice in a text. -/
def NamesFieldsOnce (s : List UInt8) : Prop :=
  ∀ key ∈ ["uri", "line", "character"], ((writtenMembers s).map Prod.fst).count key ≤ 1

end Json

namespace Position

open Json

theorem parse_eq_ok_iff_denotes {s : List UInt8} {v : Json} (hv : Json.parse s = .ok v)
    (hkeys : NamesFieldsOnce s) (p : Position) : parse s = .ok p ↔ v.Denotes p := by
  rw [← toOption_eq_some_iff]
  cases parse_eq_ok_iff.mp hv with
  | @mk before t after hbefore ht hafter =>
    have ht : IsScalar v t ∨ IsContainer (IsText (maxNesting - 1)) v t := ht
    rcases ht with ht | ht
    · rw [toOption_parse hbefore (reader_scalar ht) hafter]
      refine ⟨nofun, fun h => ?_⟩
      cases h <;> cases ht
    · cases ht with
      | emptyList h =>
        rw [toOption_parse hbefore (reader_emptyList h) hafter, denotes_arr_iff]
        simp
      | list h =>
        rw [toOption_parse hbefore (reader_list h) hafter, denotes_arr_iff, ofItems?_eq_some_iff]
      | emptyObject h =>
        rw [toOption_parse hbefore (reader_emptyObject h) hafter, denotes_obj_iff]
        simp [Members.get?]
      | object h =>
        rw [NamesFieldsOnce, writtenMembers_of_separated h hbefore after] at hkeys
        rw [toOption_parse hbefore (reader_object h) hafter, denotes_obj_iff,
          ofMembers?_eq_some_iff, Members.getAll_eq_singleton_iff (hkeys "uri" (by simp)),
          Members.getAll_eq_singleton_iff (hkeys "line" (by simp)),
          Members.getAll_eq_singleton_iff (hkeys "character" (by simp))]

end Position

/-- The position that is read from an accepted text is the one that its value denotes. A field
that is missing, null or no coordinate is refused. -/
theorem position_read_iff_denoted {s : List UInt8} {v : Json} (hv : Json.parse s = .ok v)
    (hkeys : Json.NamesFieldsOnce s) :
    (∀ p, Position.parse s = .ok p ↔ v.Denotes p) ∧
    (∀ field ∈ [("uri", 0), ("line", 1), ("character", 2)],
      v.field? field.1 field.2 = none ∨ v.field? field.1 field.2 = some .null →
        ∃ fault, Position.parse s = .error fault) ∧
    ∀ field ∈ [("line", 1), ("character", 2)], ∀ u, v.field? field.1 field.2 = some u →
      u.IsNoCoordinate → ∃ fault, Position.parse s = .error fault := by
  have hread := Position.parse_eq_ok_iff_denotes hv hkeys
  have hrefused (h : ∀ p, ¬v.Denotes p) : ∃ fault, Position.parse s = .error fault := by
    cases hparse : Position.parse s with
    | error fault => exact ⟨fault, rfl⟩
    | ok p => exact absurd ((hread p).mp hparse) (h p)
  refine ⟨hread, fun field hfield hmissing => hrefused fun p hp => ?_,
    fun field hfield u hu hno => hrefused fun p hp => ?_⟩
  · obtain ⟨huri, hline, hcharacter⟩ := hp.fields
    simp only [List.mem_cons, List.not_mem_nil, or_false] at hfield
    rcases hfield with rfl | rfl | rfl
    · simp [huri] at hmissing
    · simp [hline, Json.nat] at hmissing
    · simp [hcharacter, Json.nat] at hmissing
  · obtain ⟨_, hline, hcharacter⟩ := hp.fields
    simp only [List.mem_cons, List.not_mem_nil, or_false] at hfield
    rcases hfield with rfl | rfl
    · cases hline.symm.trans hu
      exact Json.not_isNoCoordinate_nat p.line hno
    · cases hcharacter.symm.trans hu
      exact Json.not_isNoCoordinate_nat p.character hno

private def shuffledText : String :=
  " \x7b\"line\": 7, \"more\": [\x7b\"uri\": null\x7d, \"\\ud83d\\ude00\"], " ++
    "\"character\" : 4294967295,\n" ++ "\"\\u0075ri\": \"file:///a b\"\x7d"

private def shuffledValue : Json :=
  .obj [("character", .nat 4294967295), ("line", .nat 7),
    ("more", .arr [.obj [("uri", .null)], .str "😀"]), ("uri", .str "file:///a b")]

private theorem parse_shuffledText : Json.parse (Utf8.encode shuffledText) = .ok shuffledValue :=
  Json.parse_eq_of_same (by decide) (by decide +kernel)

private theorem namesFieldsOnce_shuffledText :
    Json.NamesFieldsOnce (Utf8.encode shuffledText) := by
  unfold Json.NamesFieldsOnce
  decide +kernel

/-- Fields out of order, an escaped key, the largest coordinate and a member to step over. -/
theorem shuffled_position_read :
    Json.parse (Utf8.encode shuffledText) = .ok shuffledValue ∧
    Json.NamesFieldsOnce (Utf8.encode shuffledText) ∧
    Position.parse (Utf8.encode shuffledText) = .ok ⟨"file:///a b", 7, 4294967295⟩ := by
  refine ⟨parse_shuffledText, namesFieldsOnce_shuffledText, ?_⟩
  refine ((position_read_iff_denoted parse_shuffledText namesFieldsOnce_shuffledText).1 _).mpr ?_
  exact .object rfl rfl rfl

end LspProbe
