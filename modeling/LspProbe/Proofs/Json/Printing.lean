import LspProbe.Json.Printer
import LspProbe.Proofs.Decimal
import LspProbe.Proofs.Json.Shape

/-!
# Written values are texts

What the writer makes of a value is a text of that value, with its members in order, in any layout
that puts only blanks between tokens. The rule for numbers is open; for a value without doubles
it can be that of the readers.
-/

namespace LspProbe.Json

/-- A layout that puts only blanks between tokens. -/
structure Layout.IsBlank (l : Layout) : Prop where
  gap : ∀ depth, Blanks (Utf8.encode (l.gap depth))
  afterColon : Blanks (Utf8.encode l.afterColon)

theorem Layout.compact_isBlank : Layout.compact.IsBlank :=
  ⟨fun _ => by simp [compact, Blanks], by simp [compact, Blanks]⟩

theorem Layout.pretty_isBlank : Layout.pretty.IsBlank := by
  refine ⟨fun depth => ?_, ?_⟩
  · intro b hb
    have hline : Utf8.encode "\n" = [0x0A] := by decide
    have hspace : String.utf8EncodeChar ' ' = [0x20] := by decide
    rw [pretty, Utf8.encode_append, hline, Utf8.encode, String.toList_ofList,
      List.flatMap_replicate, hspace] at hb
    rcases List.mem_append.mp hb with hb | hb
    · cases List.mem_singleton.mp hb
      rfl
    · obtain ⟨t, ht, hb⟩ := List.mem_flatten.mp hb
      rw [(List.mem_replicate.mp ht).2] at hb
      cases List.mem_singleton.mp hb
      rfl
  · intro b hb
    have hspace : Utf8.encode " " = [0x20] := by decide
    rw [pretty, hspace] at hb
    cases List.mem_singleton.mp hb
    rfl

theorem isLiteral_decimal (negative : Bool) (n : Nat) :
    IsLiteral ⟨negative, decimal n, [], none⟩ (digitBytes (decimal n)) :=
  isLiteral_whole negative (isWhole_decimal n)

private theorem absorb_decimal {n : Nat} (h : n < 0x10000000000000000) :
    Number.absorb 0 (decimal n) = (n, []) := by
  have hvalue := appendDigits_decimal n
  have habsorb := Number.absorb_eq (show appendDigits 0 (decimal n) < _ by rwa [hvalue])
  rwa [hvalue] at habsorb

theorem isScalar_int {i : Int} (h : IsWord i) :
    IsScalar (.num (.int i)) (Utf8.encode (Number.text (.int i))) := by
  obtain ⟨hlow, hhigh⟩ := h
  rw [Number.text, Int.toString_eq_repr, Int.repr_eq_if]
  split
  · next hpos =>
    have hvalue : (⟨false, decimal i.toNat, [], none⟩ : Number.Literal).value = .ok (.int i) := by
      simp only [Number.Literal.value, Number.Literal.integer,
        absorb_decimal (show i.toNat < 0x10000000000000000 by omega)]
      simp [Int.toNat_of_nonneg hpos]
    rw [← Nat.toString_eq_repr, encode_toString]
    exact .positive (isLiteral_decimal false i.toNat) rfl hvalue
  · next hneg =>
    have hrange : 0 < (-i).toNat ∧ (-i).toNat ≤ 0x8000000000000000 := by omega
    have hvalue : (⟨true, decimal (-i).toNat, [], none⟩ : Number.Literal).value =
        .ok (.int i) := by
      simp only [Number.Literal.value, Number.Literal.integer,
        absorb_decimal (show (-i).toNat < 0x10000000000000000 by omega)]
      simp only [hrange, and_self, if_true, ne_eq, not_true_eq_false, if_false]
      congr
      omega
    have hminus : Utf8.encode "-" = [Ascii.minus] := by decide
    rw [← Nat.toString_eq_repr, Utf8.encode_append, encode_toString, hminus]
    exact .negative (isLiteral_decimal true (-i).toNat) rfl hvalue

private theorem hexDigit?_hexChar {n : Nat} (h : n < 16) :
    ∃ b, String.utf8EncodeChar (hexChar n) = [b] ∧ Ascii.hexDigit? b = some n :=
  (show ∀ n < 16, ∃ b, String.utf8EncodeChar (hexChar n) = [b] ∧ Ascii.hexDigit? b = some n by
    intro n hn
    refine ⟨(String.utf8EncodeChar (hexChar n)).headD 0, ?_⟩
    revert n
    decide) n h

private theorem isContent_control {c : Char} (hc : c.toNat < 0x20) {cs : List Char} {s : List UInt8}
    (h : IsContent cs s) :
    IsContent (c :: cs)
      (['\\', 'u', '0', '0', hexChar (c.toNat / 16), hexChar (c.toNat % 16)].flatMap
        String.utf8EncodeChar ++ s) := by
  obtain ⟨a, ha, ha'⟩ := hexDigit?_hexChar (show c.toNat / 16 < 16 by omega)
  obtain ⟨b, hb, hb'⟩ := hexDigit?_hexChar (show c.toNat % 16 < 16 by omega)
  have hzero : Ascii.hexDigit? Ascii.zero = some 0 := rfl
  have hunit : IsUnit c.toNat [Ascii.zero, Ascii.zero, a, b] := by
    have hvalue : ((0 * 16 + 0) * 16 + c.toNat / 16) * 16 + c.toNat % 16 = c.toNat := by omega
    exact hvalue ▸ .mk hzero hzero ha' hb'
  have hcontent := IsContent.unit hunit (by omega) h
  have hbackslash : String.utf8EncodeChar '\\' = [Ascii.backslash] := by decide
  have hletter : String.utf8EncodeChar 'u' = [Ascii.lowerU] := by decide
  have hdigit : String.utf8EncodeChar '0' = [Ascii.zero] := by decide
  rw [Char.ofNat_toNat] at hcontent
  simpa [List.flatMap_cons, ha, hb, hbackslash, hletter, hdigit] using hcontent

/-- An escaped character reads as that character. -/
private theorem isContent_escape (c : Char) {cs : List Char} {s : List UInt8} (h : IsContent cs s) :
    IsContent (c :: cs) ((escape c).flatMap String.utf8EncodeChar ++ s) := by
  by_cases hquote : c = '"'
  · subst hquote
    exact .letter .quote h
  by_cases hbackslash : c = '\\'
  · subst hbackslash
    exact .letter .backslash h
  by_cases hbackspace : c = '\x08'
  · subst hbackspace
    exact .letter .backspace h
  by_cases htab : c = '\t'
  · subst htab
    exact .letter .tab h
  by_cases hline : c = '\n'
  · subst hline
    exact .letter .lineFeed h
  by_cases hform : c = '\x0c'
  · subst hform
    exact .letter .formFeed h
  by_cases hreturn : c = '\r'
  · subst hreturn
    exact .letter .carriageReturn h
  rw [escape, if_neg hquote, if_neg hbackslash, if_neg hbackspace, if_neg htab, if_neg hline,
    if_neg hform, if_neg hreturn]
  split
  · next hcontrol => exact isContent_control hcontrol h
  · next hcontrol =>
    rw [List.flatMap_singleton]
    exact .plain hquote hbackslash (Nat.le_of_not_lt hcontrol) h

private theorem isContent_flatMap_escape (cs : List Char) :
    IsContent cs ((cs.flatMap escape).flatMap String.utf8EncodeChar) := by
  induction cs with
  | nil => exact .nil
  | cons c cs ih =>
    rw [List.flatMap_cons, List.flatMap_append]
    exact isContent_escape c ih

theorem isQuoted_quoted (text : String) : IsQuoted text (Utf8.encode (quoted text)) := by
  have hquote : Utf8.encode "\"" = [Ascii.quote] := by decide
  rw [quoted, Utf8.encode_append, Utf8.encode_append, hquote, List.append_assoc,
    List.singleton_append, Utf8.encode, String.toList_ofList]
  exact .mk (isContent_flatMap_escape text.toList)

/-- Texts with commas and a gap between them, and blanks at the end. -/
private theorem separated_intercalate {α β : Type} {Q : α → List UInt8 → Prop} {f : β → α}
    {text : β → String} {gap : String} {tail : List UInt8} (htail : Blanks tail) {items : List β}
    (hne : items ≠ []) (hitems : ∀ b ∈ items, ∀ tail, Blanks tail →
      Q (f b) (Utf8.encode gap ++ (Utf8.encode (text b) ++ tail))) :
    Separated Q (items.map f)
      (Utf8.encode gap ++ (Utf8.encode (String.intercalate ("," ++ gap) (items.map text)) ++
        tail)) := by
  have hcomma : Utf8.encode "," = [Ascii.comma] := by decide
  induction items with
  | nil => exact absurd rfl hne
  | cons b rest ih =>
    cases rest with
    | nil =>
      simp only [List.map_cons, List.map_nil, String.intercalate_singleton]
      exact .last (hitems b List.mem_cons_self tail htail)
    | cons c rest =>
      have hmore := ih (by simp) fun d hd => hitems d (List.mem_cons_of_mem b hd)
      have hfirst := hitems b List.mem_cons_self [] (by simp [Blanks])
      simp only [List.map_cons, String.intercalate_cons_cons, Utf8.encode_append, hcomma,
        List.append_assoc, List.singleton_append, List.append_nil] at hmore hfirst ⊢
      simpa only [List.append_assoc, List.cons_append] using Separated.more hfirst hmore

private theorem encode_bracket (l : Layout) (depth : Nat) (opening closing : String)
    {items : List String} (hne : items ≠ []) :
    Utf8.encode (l.bracket depth opening closing items) =
      Utf8.encode opening ++ ((Utf8.encode (l.gap (depth + 1)) ++
        (Utf8.encode (String.intercalate ("," ++ l.gap (depth + 1)) items) ++
          Utf8.encode (l.gap depth))) ++ Utf8.encode closing) := by
  rw [Layout.bracket, if_neg hne]
  simp only [Utf8.encode_append, List.append_assoc]

theorem isMember_write {P : Json → List UInt8 → Prop} {l : Layout} (hl : l.IsBlank)
    (key : String) {v u : Json} {depth gapDepth : Nat}
    (hv : P u (Utf8.encode (write l depth v))) {tail : List UInt8} (htail : Blanks tail) :
    IsMember P (key, u) (Utf8.encode (l.gap gapDepth) ++
      (Utf8.encode (quoted key ++ ":" ++ l.afterColon ++ write l depth v) ++ tail)) := by
  have hcolon : Utf8.encode ":" = [Ascii.colon] := by decide
  have hkey : Padded (IsQuoted key)
      (Utf8.encode (l.gap gapDepth) ++ (Utf8.encode (quoted key) ++ [])) :=
    .mk (hl.gap gapDepth) (isQuoted_quoted key) (by simp [Blanks])
  have hmember := IsMember.mk hkey (Padded.mk hl.afterColon hv htail)
  simpa only [Utf8.encode_append, hcolon, List.append_assoc, List.append_nil, List.cons_append,
    List.singleton_append, List.nil_append] using hmember

/-- The text of an object: its members in the order in which they are written. -/
theorem exists_separated_write {P : Json → List UInt8 → Prop} {l : Layout} (hl : l.IsBlank)
    {members : Members} (hne : members ≠ []) (depth : Nat)
    (hmembers : ∀ m ∈ members, P m.2.ordered (Utf8.encode (write l (depth + 1) m.2))) :
    ∃ s, Utf8.encode (write l depth (.obj members)) =
        Ascii.openBrace :: (s ++ [Ascii.closeBrace]) ∧
      Separated (IsMember P) (members.map fun m => (m.1, m.2.ordered)) s := by
  rw [write, writeMembers_eq_map, encode_bracket _ _ _ _ (by simpa using hne)]
  refine ⟨_, rfl, separated_intercalate (hl.gap depth) hne fun m hm tail htail => ?_⟩
  exact isMember_write hl m.1 (hmembers m hm) htail

/-- Every number in a value is of a class. -/
inductive NumbersAre (N : Number → Prop) : Json → Prop
  | null : NumbersAre N .null
  | bool (b : Bool) : NumbersAre N (.bool b)
  | num {n : Number} (h : N n) : NumbersAre N (.num n)
  | str (s : String) : NumbersAre N (.str s)
  | arr {items : List Json} (h : ∀ v ∈ items, NumbersAre N v) : NumbersAre N (.arr items)
  | obj {members : Members} (h : ∀ m ∈ members, NumbersAre N m.2) : NumbersAre N (.obj members)

theorem isTextBy_of_isScalarBy {N : Number → List UInt8 → Prop} {n : Nat} {v : Json}
    {s : List UInt8} (h : IsScalarBy N v s) : IsTextBy N n v s := by
  cases n with
  | zero => exact h
  | succ n => exact .inl h

/-- What is written of a value is a text of it, by any rule that takes its numbers as they are
written. -/
theorem isTextBy_write {N : Number → List UInt8 → Prop} {l : Layout} (hl : l.IsBlank) {v : Json}
    (h : NumbersAre (fun n => N n (Utf8.encode n.text)) v) (depth : Nat) {n : Nat}
    (hn : v.depth ≤ n) : IsTextBy N n v.ordered (Utf8.encode (write l depth v)) := by
  induction h generalizing depth n with
  | null =>
    have htext : Utf8.encode "null" = [0x6E, 0x75, 0x6C, 0x6C] := by decide
    rw [write, htext]
    exact isTextBy_of_isScalarBy .null
  | bool b =>
    cases b with
    | true =>
      have htext : Utf8.encode "true" = [0x74, 0x72, 0x75, 0x65] := by decide
      rw [write, htext]
      exact isTextBy_of_isScalarBy .true
    | false =>
      have htext : Utf8.encode "false" = [0x66, 0x61, 0x6C, 0x73, 0x65] := by decide
      rw [write, htext]
      exact isTextBy_of_isScalarBy .false
  | num h =>
    rw [write]
    exact isTextBy_of_isScalarBy (.num h)
  | str s =>
    rw [write]
    exact isTextBy_of_isScalarBy (.str (isQuoted_quoted s))
  | arr h ih =>
    rename_i items
    obtain ⟨n, rfl⟩ := Nat.exists_eq_add_of_le' (show 1 ≤ n by rw [Json.depth] at hn; omega)
    have hitems := depth_arr_le_iff.mp hn
    rw [write, ordered, orderedItems_eq_map, writeItems_eq_map]
    by_cases hne : items = []
    · have htext : Utf8.encode (l.bracket depth "[" "]" []) =
          Ascii.openBracket :: ([] ++ [Ascii.closeBracket]) := by
        rw [Layout.bracket, if_pos rfl]
        decide
      rw [hne, List.map_nil, List.map_nil, htext]
      exact .inr (.emptyList (by simp [Blanks]))
    · rw [encode_bracket _ _ _ _ (by simpa using hne)]
      refine .inr (.list (separated_intercalate (hl.gap depth) hne fun v hv tail htail => ?_))
      exact .mk (hl.gap (depth + 1)) (ih v hv (depth + 1) (hitems v hv)) htail
  | obj h ih =>
    rename_i members
    obtain ⟨n, rfl⟩ := Nat.exists_eq_add_of_le' (show 1 ≤ n by rw [Json.depth] at hn; omega)
    have hmembers := depth_obj_le_iff.mp hn
    rw [ordered, orderedMembers_eq_map]
    by_cases hne : members = []
    · have htext : Utf8.encode (l.bracket depth "\x7b" "\x7d" []) =
          Ascii.openBrace :: ([] ++ [Ascii.closeBrace]) := by
        rw [Layout.bracket, if_pos rfl]
        decide
      rw [hne, write, writeMembers_eq_map, List.map_nil, List.map_nil, htext]
      exact .inr (.emptyObject (by simp [Blanks]))
    · obtain ⟨s, hs, hseparated⟩ := exists_separated_write hl hne depth fun m hm =>
        ih m hm (depth + 1) (hmembers m hm)
      rw [hs]
      exact .inr (.object hseparated)

theorem Exact.numbersAre {v : Json} (h : Exact v) :
    NumbersAre (fun n => IsScalar (.num n) (Utf8.encode n.text)) v := by
  induction h with
  | null => exact .null
  | bool b => exact .bool b
  | int h => exact .num (isScalar_int h)
  | str s => exact .str s
  | arr h ih => exact .arr ih
  | obj h ih => exact .obj ih

/-- What is written of a value without doubles is a text of it. -/
theorem isText_write {l : Layout} (hl : l.IsBlank) {v : Json} (h : Exact v) (depth : Nat)
    {n : Nat} (hn : v.depth ≤ n) : IsText n v.ordered (Utf8.encode (write l depth v)) := by
  have htext := isTextBy_write (N := fun n s => IsScalar (.num n) s) hl h.numbersAre depth hn
  exact htext.isText fun n s hs => hs

end LspProbe.Json
