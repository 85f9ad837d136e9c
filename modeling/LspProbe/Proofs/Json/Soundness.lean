import LspProbe.Proofs.Json.Acceptance

/-!
# Readers take nothing but texts

What a reader takes is a text of the value it gives. With the other direction, a reader accepts
exactly the texts of the grammar, with blanks around them, and gives the value they stand for.
-/

namespace LspProbe.Json

/-- What a reader takes from the front is a text, by `P`, of what it gives. -/
def Sound {α : Type} (reader : Reader α) (P : α → List UInt8 → Prop) : Prop :=
  ∀ s a rest, reader s = .ok (a, rest) → ∃ t, s = t ++ rest ∧ P a t

private theorem exists_blanks_append (s : List UInt8) :
    ∃ blanks, Blanks blanks ∧ s = blanks ++ skipBlanks s := by
  induction s with
  | nil => exact ⟨[], by simp [Blanks], rfl⟩
  | cons b s ih =>
    obtain ⟨blanks, hblanks, hs⟩ := ih
    rw [skipBlanks]
    split
    · next hb => exact ⟨b :: blanks, List.forall_mem_cons.mpr ⟨hb, hblanks⟩, congrArg (b :: ·) hs⟩
    · exact ⟨[], by simp [Blanks], rfl⟩

/-- The blanks in front of what `skipBlanks` leaves. -/
private theorem exists_blanks_of_skipBlanks {s t : List UInt8} (h : skipBlanks s = t) :
    ∃ blanks, Blanks blanks ∧ s = blanks ++ t := by
  rw [← h]
  exact exists_blanks_append s

theorem word_sound {letters s rest : List UInt8} (h : word letters s = .ok rest) :
    s = letters ++ rest := by
  induction letters generalizing s with
  | nil =>
    cases h
    rfl
  | cons l ls ih =>
    cases s with
    | nil => cases h
    | cons b s =>
      rw [word] at h
      split at h
      · next hb => rw [hb, ih h, List.cons_append]
      · cases h

private theorem digit?_eq_some {b : UInt8} {d : Nat} (h : Ascii.digit? b = some d) :
    d < 10 ∧ b = digitByte d := by
  rw [Ascii.digit?, Option.ite_none_right_eq_some, UInt8.le_iff_toNat_le,
    UInt8.le_iff_toNat_le] at h
  obtain ⟨⟨hlow, hhigh⟩, h⟩ := h
  have hlow : 0x30 ≤ b.toNat := hlow
  have hhigh : b.toNat ≤ 0x39 := hhigh
  have hd := Option.some.inj h
  have hb : 0x30 + d = b.toNat := by omega
  exact ⟨by omega, by rw [digitByte, hb, UInt8.ofNat_toNat]⟩

theorem digits_sound {s rest : List UInt8} {ds : List Nat} (h : Ascii.digits s = (ds, rest)) :
    s = digitBytes ds ++ rest ∧ ∀ d ∈ ds, d < 10 := by
  induction s generalizing ds with
  | nil =>
    cases h
    exact ⟨rfl, by simp⟩
  | cons b s ih =>
    rw [Ascii.digits] at h
    split at h
    · next d hd =>
      obtain ⟨hlt, rfl⟩ := digit?_eq_some hd
      cases h
      obtain ⟨hs, hds⟩ := ih rfl
      exact ⟨congrArg (digitByte d :: ·) hs, List.forall_mem_cons.mpr ⟨hlt, hds⟩⟩
    · cases h
      exact ⟨rfl, by simp⟩

private theorem isDigits_of_digits {s rest : List UInt8} {ds : List Nat}
    (h : Ascii.digits s = (ds, rest)) (hne : ds ≠ []) :
    IsDigits ds ∧ s = digitBytes ds ++ rest :=
  ⟨⟨hne, (digits_sound h).2⟩, (digits_sound h).1⟩

theorem whole_sound (w : Wording) :
    Sound (whole w) fun ds t => IsWhole ds ∧ t = digitBytes ds := by
  intro s ds rest h
  cases s with
  | nil => cases h
  | cons b s =>
    rw [whole] at h
    split at h
    · cases h
    · next hd =>
      obtain ⟨_, rfl⟩ := digit?_eq_some hd
      split at h
      · cases h
        exact ⟨_, rfl, ⟨⟨by simp, by simp⟩, by simp⟩, rfl⟩
      · cases h
    · next d hzero hd =>
      obtain ⟨hlt, rfl⟩ := digit?_eq_some hd
      cases h
      obtain ⟨hs, hds⟩ := digits_sound (s := s) rfl
      refine ⟨digitBytes (d :: (Ascii.digits s).1), congrArg (digitByte d :: ·) hs, ?_, rfl⟩
      refine ⟨⟨by simp, List.forall_mem_cons.mpr ⟨hlt, hds⟩⟩, fun hhead => ?_⟩
      exact absurd (Option.some.inj hhead) hzero

theorem fraction_sound (w : Wording) : Sound (fraction w) IsFraction := by
  intro s ds rest h
  cases s with
  | nil =>
    cases h
    exact ⟨[], rfl, .absent⟩
  | cons b s =>
    rw [fraction] at h
    split at h
    · next hb =>
      subst hb
      split at h
      · cases h
      · cases h
      · next hend hnone =>
        have hdigits := Except.ok.inj h
        have hne : ds ≠ [] := by
          rintro rfl
          exact hnone rest hdigits
        obtain ⟨hds, hs⟩ := isDigits_of_digits hdigits hne
        exact ⟨Ascii.point :: digitBytes ds, by rw [hs, List.cons_append], .point hds⟩
    · cases h
      exact ⟨[], rfl, .absent⟩

theorem powerSign_sound (s : List UInt8) :
    ∃ sign, IsSign (powerSign s).1 sign ∧ s = sign ++ (powerSign s).2 := by
  cases s with
  | nil => exact ⟨[], .absent, rfl⟩
  | cons b s =>
    rw [powerSign]
    split
    · next hb => exact ⟨[Ascii.plus], .plus, by rw [hb]; rfl⟩
    · split
      · next hb => exact ⟨[Ascii.minus], .minus, by rw [hb]; rfl⟩
      · exact ⟨[], .absent, rfl⟩

theorem power_sound (w : Wording) : Sound (power w) IsPower := by
  intro s p rest h
  cases s with
  | nil =>
    cases h
    exact ⟨[], rfl, .absent⟩
  | cons b s =>
    rw [power] at h
    split at h
    · next hb =>
      obtain ⟨sign, hsign, hs⟩ := powerSign_sound s
      split at h
      · cases h
      · cases h
      · next ds left hend hnone hdigits =>
        cases h
        have hne : ds ≠ [] := by
          rintro rfl
          cases rest with
          | nil => exact hend rfl rfl
          | cons c rest => exact hnone c rest rfl rfl
        obtain ⟨hds, hrest⟩ := isDigits_of_digits hdigits hne
        refine ⟨b :: (sign ++ digitBytes ds), ?_, .mark hb hsign hds⟩
        rw [List.cons_append, List.append_assoc, ← hrest, ← hs]
    · cases h
      exact ⟨[], rfl, .absent⟩

theorem literal_sound (w : Wording) (negative : Bool) :
    Sound (literal w negative) fun l t => l.negative = negative ∧ IsLiteral l t := by
  intro s l rest h
  obtain ⟨⟨ds, s₁⟩, hwhole, h⟩ := bind_eq_ok_iff.mp h
  obtain ⟨⟨fs, s₂⟩, hfraction, h⟩ := bind_eq_ok_iff.mp h
  obtain ⟨⟨p, s₃⟩, hpower, h⟩ := bind_eq_ok_iff.mp h
  cases h
  obtain ⟨_, rfl, hds, rfl⟩ := whole_sound w _ _ _ hwhole
  obtain ⟨f, rfl, hf⟩ := fraction_sound w _ _ _ hfraction
  obtain ⟨e, rfl, he⟩ := power_sound w _ _ _ hpower
  exact ⟨digitBytes ds ++ (f ++ e), by simp, rfl, .mk hds hf he⟩

theorem number_sound (negative : Bool) :
    Sound (number negative) fun n t =>
      ∃ l : Number.Literal, IsLiteral l t ∧ l.negative = negative ∧ l.value = .ok n := by
  intro s n rest h
  obtain ⟨⟨l, s'⟩, hliteral, h⟩ := bind_eq_ok_iff.mp h
  obtain ⟨t, ht, hsign, hl⟩ := literal_sound _ _ _ _ _ hliteral
  dsimp only at h
  split at h
  · next hvalue =>
    cases h
    exact ⟨t, ht, l, hl, hsign, hvalue⟩
  · cases h

theorem unit_sound : Sound unit IsUnit := by
  intro s u rest h
  unfold unit at h
  split at h
  · split at h
    · next ha hb hc hd =>
      cases h
      exact ⟨_, rfl, .mk ha hb hc hd⟩
    · cases h
  · cases h

/-- What follows a backslash stands for a character, in front of any content. -/
def IsEscaped (c : Char) (t : List UInt8) : Prop :=
  ∀ cs s, IsContent cs s → IsContent (c :: cs) (Ascii.backslash :: (t ++ s))

theorem lowHalf_sound {high : Nat} {s rest : List UInt8} {point : Nat}
    (h : lowHalf high s = .ok (point, rest)) :
    ∃ low t, IsUnit low t ∧ (0xDC00 ≤ low ∧ low < 0xE000) ∧
      s = Ascii.backslash :: Ascii.lowerU :: (t ++ rest) ∧
      point = 0x10000 + (high - 0xD800) * 0x400 + (low - 0xDC00) := by
  unfold lowHalf at h
  split at h
  · cases h
  · split at h
    · cases h
    · next b rest' hb =>
      split at h
      · cases h
      · next u s' =>
        split at h
        · cases h
        · next hu =>
          obtain ⟨⟨low, s''⟩, hlow, h⟩ := bind_eq_ok_iff.mp h
          dsimp only at h
          split at h
          · next hrange =>
            obtain ⟨hpoint, hrest⟩ := Prod.mk.inj (Except.ok.inj h)
            obtain ⟨t, rfl, ht⟩ := unit_sound _ _ _ hlow
            rw [Decidable.not_not] at hb hu
            exact ⟨low, t, ht, hrange, by rw [hb, hu, hrest], hpoint.symm⟩
          · cases h

theorem codePoint_sound :
    Sound codePoint fun point t => IsEscaped (Char.ofNat point) (Ascii.lowerU :: t) := by
  intro s point rest h
  obtain ⟨⟨first, s'⟩, hfirst, hnext⟩ := bind_eq_ok_iff.mp h
  obtain ⟨t, rfl, ht⟩ := unit_sound _ _ _ hfirst
  dsimp only at hnext
  split at hnext
  · cases hnext
  · next hlow =>
    split at hnext
    · next hhigh =>
      obtain ⟨low, t', ht', hlow', hs', hpoint⟩ := lowHalf_sound hnext
      refine ⟨t ++ Ascii.backslash :: Ascii.lowerU :: t', by simp [hs'], fun cs s hs => ?_⟩
      have hpair := IsContent.pair ht hhigh ht' hlow' hs
      rw [hpoint]
      simpa only [List.append_assoc, List.cons_append] using hpair
    · next hhigh =>
      cases hnext
      exact ⟨t, rfl, fun cs s hs => IsContent.unit ht (by omega) hs⟩

private theorem isEscape_of_letterEscape? {b byte : UInt8} (h : letterEscape? b = some byte) :
    ∃ c, IsEscape b c ∧ String.utf8EncodeChar c = [byte] := by
  have hescape : b ∈ [Ascii.quote, Ascii.backslash, Ascii.slash, Ascii.lowerB, Ascii.lowerF,
      Ascii.lowerN, Ascii.lowerR, Ascii.lowerT] := by
    refine Decidable.byContradiction fun hb => ?_
    simp only [List.mem_cons, List.not_mem_nil, or_false, not_or] at hb
    simp [letterEscape?, hb] at h
  simp only [List.mem_cons, List.not_mem_nil, or_false] at hescape
  rcases hescape with rfl | rfl | rfl | rfl | rfl | rfl | rfl | rfl <;>
    rw [← Option.some.inj h]
  · exact ⟨_, .quote, by decide⟩
  · exact ⟨_, .backslash, by decide⟩
  · exact ⟨_, .slash, by decide⟩
  · exact ⟨_, .backspace, by decide⟩
  · exact ⟨_, .formFeed, by decide⟩
  · exact ⟨_, .lineFeed, by decide⟩
  · exact ⟨_, .carriageReturn, by decide⟩
  · exact ⟨_, .tab, by decide⟩

theorem escaped_sound :
    Sound escaped fun bytes t => ∃ c, bytes = String.utf8EncodeChar c ∧ IsEscaped c t := by
  intro s bytes rest h
  cases s with
  | nil => cases h
  | cons b s =>
    rw [escaped] at h
    split at h
    · next hb =>
      subst hb
      obtain ⟨⟨point, s'⟩, hpoint, h⟩ := bind_eq_ok_iff.mp h
      cases h
      obtain ⟨t, rfl, ht⟩ := codePoint_sound _ _ _ hpoint
      exact ⟨Ascii.lowerU :: t, rfl, _, rfl, ht⟩
    · split at h
      · next byte hbyte =>
        cases h
        obtain ⟨c, hc, hencode⟩ := isEscape_of_letterEscape? hbyte
        exact ⟨[b], rfl, c, hencode.symm, fun cs s hs => .letter hc hs⟩
      · cases h

/-- How the bytes that a string stands for are written between its quotes. -/
inductive Spells : List UInt8 → List UInt8 → Prop
  | nil : Spells [] []
  | plain {b : UInt8} {bytes t : List UInt8} (hb : IsPlainByte b) (h : Spells bytes t) :
      Spells (b :: bytes) (b :: t)
  | escape {c : Char} {e bytes t : List UInt8} (he : IsEscaped c e) (h : Spells bytes t) :
      Spells (String.utf8EncodeChar c ++ bytes) (Ascii.backslash :: (e ++ t))

theorem stringBytes_sound (budget : Nat) :
    Sound (stringBytes budget) fun bytes t => ∃ u, t = u ++ [Ascii.quote] ∧ Spells bytes u := by
  induction budget with
  | zero =>
    intro s bytes rest h
    cases h
  | succ budget ih =>
    intro s bytes rest h
    cases s with
    | nil => cases h
    | cons b s =>
      rw [stringBytes] at h
      split at h
      · next hb =>
        cases h
        exact ⟨[Ascii.quote], by rw [hb]; rfl, [], rfl, .nil⟩
      · next hquote =>
        split at h
        · next hb =>
          obtain ⟨⟨first, s₁⟩, hfirst, h⟩ := bind_eq_ok_iff.mp h
          obtain ⟨⟨more, s₂⟩, hmore, h⟩ := bind_eq_ok_iff.mp h
          cases h
          obtain ⟨e, rfl, c, rfl, he⟩ := escaped_sound _ _ _ hfirst
          obtain ⟨_, rfl, u, rfl, hu⟩ := ih _ _ _ hmore
          refine ⟨Ascii.backslash :: (e ++ u) ++ [Ascii.quote], ?_, _, rfl, .escape he hu⟩
          simp [hb]
        · next hbackslash =>
          split at h
          · cases h
          · next hcontrol =>
            obtain ⟨⟨more, s₁⟩, hmore, h⟩ := bind_eq_ok_iff.mp h
            cases h
            obtain ⟨_, rfl, u, rfl, hu⟩ := ih _ _ _ hmore
            exact ⟨b :: u ++ [Ascii.quote], by simp, _, rfl,
              .plain ⟨hquote, hbackslash, hcontrol⟩ hu⟩

/-- A byte that goes on with a character. -/
def IsContinuation (b : UInt8) : Prop := 0x80 ≤ b.toNat ∧ b.toNat < 0xC0

private theorem isContinuation_ofNat (n : Nat) : IsContinuation (UInt8.ofNat (n % 64 + 128)) := by
  rw [IsContinuation, UInt8.toNat_ofNat']
  omega

/-- Only the first byte of a character does not go on with one. -/
private theorem exists_utf8EncodeChar_eq (c : Char) :
    ∃ b more, String.utf8EncodeChar c = b :: more ∧ ¬IsContinuation b ∧
      ∀ x ∈ more, IsContinuation x := by
  have hmax : c.val.toNat < 0x110000 := by
    have hvalid : c.val.toNat.isValidChar := c.valid
    rcases hvalid with h | h <;> omega
  have hfirst {n : Nat} (hn : n < 128 ∨ 192 ≤ n ∧ n < 256) : ¬IsContinuation (UInt8.ofNat n) := by
    rw [IsContinuation, UInt8.toNat_ofNat']
    omega
  rw [String.utf8EncodeChar]
  split
  · exact ⟨_, _, rfl, hfirst (by omega), by simp⟩
  · split
    · refine ⟨_, _, rfl, hfirst (by omega), ?_⟩
      simp only [List.forall_mem_cons, isContinuation_ofNat, true_and]
      simp
    · split
      · refine ⟨_, _, rfl, hfirst (by omega), ?_⟩
        simp only [List.forall_mem_cons, isContinuation_ofNat, true_and]
        simp
      · refine ⟨_, _, rfl, hfirst (by omega), ?_⟩
        simp only [List.forall_mem_cons, isContinuation_ofNat, true_and]
        simp

private theorem utf8EncodeChar_append_inj {c d : Char} {s t : List UInt8}
    (h : String.utf8EncodeChar c ++ s = String.utf8EncodeChar d ++ t) : c = d ∧ s = t := by
  have hdecode := congrArg (fun bytes => (Utf8.decode bytes).1.head?) h
  simp only [Utf8.decode_utf8EncodeChar, List.head?_cons] at hdecode
  obtain rfl := Option.some.inj hdecode
  exact ⟨rfl, List.append_cancel_left h⟩

/-- Bytes that go on with a character are written as they are. -/
private theorem Spells.of_continuations {more bytes t : List UInt8}
    (hmore : ∀ x ∈ more, IsContinuation x) (h : Spells (more ++ bytes) t) :
    ∃ u, t = more ++ u ∧ Spells bytes u := by
  induction more generalizing t with
  | nil => exact ⟨t, rfl, h⟩
  | cons x more ih =>
    generalize hall : x :: more ++ bytes = all at h
    cases h with
    | nil => cases hall
    | plain hb h =>
      cases hall
      obtain ⟨u, rfl, hu⟩ := ih (fun y hy => hmore y (List.mem_cons_of_mem x hy)) h
      exact ⟨u, rfl, hu⟩
    | @escape c e bytes t he h =>
      obtain ⟨b, rest, hc, hb, _⟩ := exists_utf8EncodeChar_eq c
      rw [hc] at hall
      obtain rfl := (List.cons.inj hall).1
      exact absurd (hmore x List.mem_cons_self) hb

private theorem isPlain_of_utf8EncodeChar {c : Char} {b : UInt8} {more : List UInt8}
    (h : String.utf8EncodeChar c = b :: more) (hb : IsPlainByte b) :
    c ≠ '"' ∧ c ≠ '\\' ∧ 0x20 ≤ c.toNat := by
  obtain ⟨hquote, hbackslash, hcontrol⟩ := hb
  refine ⟨?_, ?_, Nat.le_of_not_lt fun hlt => hcontrol ?_⟩
  · rintro rfl
    exact hquote (List.cons.inj h).1.symm
  · rintro rfl
    exact hbackslash (List.cons.inj h).1.symm
  · have hval : c.val.toNat = c.toNat := rfl
    rw [String.utf8EncodeChar, hval, if_pos (by omega)] at h
    rw [← (List.cons.inj h).1, UInt8.lt_iff_toNat_lt, UInt8.toNat_ofNat']
    exact Nat.lt_of_le_of_lt (Nat.mod_le _ _) hlt

private theorem isContent_of_spells {cs : List Char} {t : List UInt8}
    (h : Spells (cs.flatMap String.utf8EncodeChar) t) : IsContent cs t := by
  induction cs generalizing t with
  | nil =>
    generalize hall : ([] : List Char).flatMap String.utf8EncodeChar = all at h
    cases h with
    | nil => exact .nil
    | plain hb h => cases hall
    | @escape c e bytes t he h =>
      obtain ⟨b, rest, hc, _⟩ := exists_utf8EncodeChar_eq c
      rw [hc] at hall
      cases hall
  | cons c cs ih =>
    obtain ⟨first, more, hc, hfirst, hmore⟩ := exists_utf8EncodeChar_eq c
    generalize hall : (c :: cs).flatMap String.utf8EncodeChar = all at h
    rw [List.flatMap_cons] at hall
    cases h with
    | nil =>
      rw [hc] at hall
      cases hall
    | plain hb h =>
      rw [hc] at hall
      cases hall
      obtain ⟨u, rfl, hu⟩ := h.of_continuations hmore
      obtain ⟨hquote, hbackslash, hcontrol⟩ := isPlain_of_utf8EncodeChar hc hb
      have hplain := IsContent.plain hquote hbackslash hcontrol (ih hu)
      rwa [hc] at hplain
    | escape he h =>
      obtain ⟨rfl, rfl⟩ := utf8EncodeChar_append_inj hall
      exact he cs _ (ih h)

theorem string_sound :
    Sound string fun text t => ∃ u, t = u ++ [Ascii.quote] ∧ IsContent text.toList u := by
  intro s text rest h
  obtain ⟨⟨bytes, s'⟩, hbytes, h⟩ := bind_eq_ok_iff.mp h
  obtain ⟨t, ht, u, rfl, hu⟩ := stringBytes_sound _ _ _ _ hbytes
  dsimp only at h
  split at h
  · next text' htext =>
    cases h
    rw [Utf8.text_eq_ok_iff, Utf8.encode] at htext
    subst htext
    exact ⟨u ++ [Ascii.quote], ht, u, rfl, isContent_of_spells hu⟩
  · cases h

/-- A text with blanks in front of it. -/
def Led (P : List UInt8 → Prop) (t : List UInt8) : Prop :=
  ∃ before s, Blanks before ∧ P s ∧ t = before ++ s

theorem Blanks.append {s t : List UInt8} (hs : Blanks s) (ht : Blanks t) : Blanks (s ++ t) :=
  List.forall_mem_append.mpr ⟨hs, ht⟩

private theorem Led.padded {P : List UInt8 → Prop} {t after : List UInt8} (h : Led P t)
    (hafter : Blanks after) : Padded P (t ++ after) := by
  obtain ⟨before, s, hbefore, hs, rfl⟩ := h
  rw [List.append_assoc]
  exact .mk hbefore hs hafter

theorem Padded.blanks_append {P : List UInt8 → Prop} {blanks t : List UInt8}
    (hblanks : Blanks blanks) (h : Padded P t) : Padded P (blanks ++ t) := by
  cases h with
  | mk hbefore h hafter =>
    rw [← List.append_assoc]
    exact .mk (hblanks.append hbefore) h hafter

theorem IsMember.blanks_append {P : Json → List UInt8 → Prop} {m : String × Json}
    {blanks t : List UInt8} (hblanks : Blanks blanks) (h : IsMember P m t) :
    IsMember P m (blanks ++ t) := by
  cases h with
  | mk hkey hvalue =>
    rw [← List.append_assoc]
    exact .mk (hkey.blanks_append hblanks) hvalue

theorem Separated.blanks_append {α : Type} {Q : α → List UInt8 → Prop}
    {blanks t : List UInt8} {as : List α} (hQ : ∀ a s, Q a s → Q a (blanks ++ s))
    (h : Separated Q as t) : Separated Q as (blanks ++ t) := by
  cases h with
  | last h => exact .last (hQ _ _ h)
  | more h hrest =>
    rw [← List.append_assoc]
    exact .more (hQ _ _ h) hrest

section Lists

variable {P : Json → List UInt8 → Prop} {item : Reader Json} (w : Wording)

theorem elements_sound (hitem : Sound item fun v => Led (P v)) (budget : Nat) :
    Sound (elements w item budget) fun vs t =>
      ∃ u, t = u ++ [Ascii.closeBracket] ∧ Separated (fun v => Padded (P v)) vs u := by
  induction budget with
  | zero =>
    intro s vs rest h
    cases h
  | succ budget ih =>
    intro s vs rest h
    rw [elements, bind_eq_ok_iff] at h
    obtain ⟨⟨v, s₁⟩, hv, h⟩ := h
    obtain ⟨t, rfl, ht⟩ := hitem _ _ _ hv
    dsimp only at h
    split at h
    · cases h
    · next b s₂ hskip =>
      obtain ⟨after, hafter, rfl⟩ := exists_blanks_of_skipBlanks hskip
      have hpadded := ht.padded hafter
      split at h
      · next hb =>
        cases h
        exact ⟨t ++ after ++ [Ascii.closeBracket], by simp [hb], _, rfl, .last hpadded⟩
      · split at h
        · next hb =>
          split at h
          · cases h
          · next c s₃ hskip =>
            obtain ⟨blanks, hblanks, rfl⟩ := exists_blanks_of_skipBlanks hskip
            split at h
            · cases h
            · obtain ⟨⟨vs, left⟩, hvs, h⟩ := bind_eq_ok_iff.mp h
              cases h
              obtain ⟨_, hs₃, u, rfl, hu⟩ := ih _ _ _ hvs
              have hmore := hu.blanks_append fun v s hs => hs.blanks_append hblanks
              refine ⟨_, ?_, _, rfl, .more hpadded hmore⟩
              simp [hb, hs₃]
        · cases h

theorem list_sound (hitem : Sound item fun v => Led (P v)) :
    Sound (list w item) fun vs t => IsContainer P (.arr vs) (Ascii.openBracket :: t) := by
  intro s vs rest h
  rw [list] at h
  split at h
  · cases h
  · next b s' hskip =>
    obtain ⟨blanks, hblanks, rfl⟩ := exists_blanks_of_skipBlanks hskip
    split at h
    · next hb =>
      cases h
      exact ⟨blanks ++ [Ascii.closeBracket], by simp [hb], .emptyList hblanks⟩
    · obtain ⟨_, hs', u, rfl, hu⟩ := elements_sound w hitem _ _ _ _ h
      have hlist := hu.blanks_append fun v s hs => hs.blanks_append hblanks
      refine ⟨blanks ++ u ++ [Ascii.closeBracket], ?_, .list hlist⟩
      rw [hs']
      simp

theorem colon_sound {s rest : List UInt8} (h : colon s = .ok rest) :
    ∃ blanks, Blanks blanks ∧ s = blanks ++ Ascii.colon :: rest := by
  rw [colon] at h
  split at h
  · cases h
  · next b s' hskip =>
    split at h
    · next hb =>
      cases h
      rw [hb] at hskip
      exact exists_blanks_of_skipBlanks hskip
    · cases h

/-- A member is read after the quote that opens its key. -/
theorem keptMember_sound (hitem : Sound item fun v => Led (P v)) {soFar kept : Members}
    {s rest : List UInt8} (h : keptMember item soFar s = .ok (kept, rest)) :
    ∃ m t, s = t ++ rest ∧ kept = Members.insert m.1 m.2 soFar ∧
      ∀ after, Blanks after → IsMember P m (Ascii.quote :: (t ++ after)) := by
  obtain ⟨⟨key, s₁⟩, hkey, h⟩ := bind_eq_ok_iff.mp h
  obtain ⟨s₂, hcolon, h⟩ := bind_eq_ok_iff.mp h
  obtain ⟨⟨v, s₃⟩, hv, h⟩ := bind_eq_ok_iff.mp h
  cases h
  obtain ⟨_, rfl, u, rfl, hu⟩ := string_sound _ _ _ hkey
  obtain ⟨blanks, hblanks, rfl⟩ := colon_sound hcolon
  obtain ⟨t, rfl, ht⟩ := hitem _ _ _ hv
  refine ⟨(key, v), u ++ Ascii.quote :: (blanks ++ Ascii.colon :: t), by simp, rfl, ?_⟩
  intro after hafter
  have hquoted : Led (IsQuoted key) (Ascii.quote :: (u ++ [Ascii.quote])) :=
    ⟨[], _, by simp [Blanks], .mk hu, rfl⟩
  simpa using IsMember.mk (hquoted.padded hblanks) (ht.padded hafter)

theorem members_sound (hitem : Sound item fun v => Led (P v)) (budget : Nat) (soFar : Members) :
    Sound (members w (keptMember item) budget soFar) fun kept t =>
      ∃ ms u, t = u ++ [Ascii.closeBrace] ∧ Separated (IsMember P) ms u ∧
        kept = ms.foldl (fun soFar m => Members.insert m.1 m.2 soFar) soFar := by
  induction budget generalizing soFar with
  | zero =>
    intro s kept rest h
    cases h
  | succ budget ih =>
    intro s kept rest h
    cases s with
    | nil => cases h
    | cons b s =>
      rw [members] at h
      split at h
      · cases h
      · next hquote =>
        rw [bind_eq_ok_iff] at h
        obtain ⟨⟨next, s₁⟩, hmember, h⟩ := h
        obtain ⟨m, t, rfl, rfl, hm⟩ := keptMember_sound hitem hmember
        rw [Decidable.not_not] at hquote
        dsimp only at h
        split at h
        · cases h
        · next c s₂ hskip =>
          obtain ⟨after, hafter, rfl⟩ := exists_blanks_of_skipBlanks hskip
          have hm := hm after hafter
          split at h
          · next hc =>
            cases h
            refine ⟨_, ?_, [m], _, rfl, .last hm, rfl⟩
            simp [hc, hquote]
          · split at h
            · next hc =>
              split at h
              · cases h
              · next d s₃ hskip =>
                obtain ⟨blanks, hblanks, rfl⟩ := exists_blanks_of_skipBlanks hskip
                split at h
                · cases h
                · obtain ⟨_, hs₃, ms, u, rfl, hu, hkept⟩ := ih _ _ _ _ h
                  have hmore := hu.blanks_append fun m s hs => hs.blanks_append hblanks
                  refine ⟨_, ?_, m :: ms, _, rfl, .more hm hmore, hkept⟩
                  simp [hc, hquote, hs₃]
            · cases h

theorem object_sound (hitem : Sound item fun v => Led (P v)) :
    Sound (object w (keptMember item) []) fun kept t =>
      IsContainer P (.obj kept) (Ascii.openBrace :: t) := by
  intro s kept rest h
  rw [object] at h
  split at h
  · cases h
  · next b s' hskip =>
    obtain ⟨blanks, hblanks, rfl⟩ := exists_blanks_of_skipBlanks hskip
    split at h
    · next hb =>
      cases h
      exact ⟨blanks ++ [Ascii.closeBrace], by simp [hb], .emptyObject hblanks⟩
    · obtain ⟨_, hs', ms, u, rfl, hu, rfl⟩ := members_sound w hitem _ _ _ _ _ h
      have hobject := hu.blanks_append fun m s hs => hs.blanks_append hblanks
      refine ⟨blanks ++ u ++ [Ascii.closeBrace], ?_, .object hobject⟩
      rw [hs']
      simp

end Lists

theorem valueWith_sound {P : Json → List UInt8 → Prop} {nested : Option (Reader Json)}
    (hnested : ∀ item ∈ nested, Sound item fun v => Led (P v)) :
    Sound (valueWith nested) fun v =>
      Led fun t => IsScalar v t ∨ (∃ item, nested = some item) ∧ IsContainer P v t := by
  intro s v rest h
  rw [valueWith] at h
  split at h
  · cases h
  · next b s' hskip =>
    obtain ⟨before, hbefore, rfl⟩ := exists_blanks_of_skipBlanks hskip
    suffices hfound : ∃ t, b :: s' = t ++ rest ∧
        (IsScalar v t ∨ (∃ item, nested = some item) ∧ IsContainer P v t) by
      obtain ⟨t, ht, hv⟩ := hfound
      exact ⟨before ++ t, by rw [ht, List.append_assoc], before, t, hbefore, hv, rfl⟩
    have hword {first : UInt8} {letters : List UInt8} {u : Json}
        (hu : IsScalar u (first :: letters)) (hb : b = first)
        (h : (word letters s' >>= fun rest => .ok (u, rest)) = .ok (v, rest)) :
        ∃ t, b :: s' = t ++ rest ∧
          (IsScalar v t ∨ (∃ item, nested = some item) ∧ IsContainer P v t) := by
      obtain ⟨s₁, hletters, h⟩ := bind_eq_ok_iff.mp h
      cases h
      exact ⟨first :: letters, by rw [hb, word_sound hletters]; rfl, .inl hu⟩
    split at h
    · next hb => exact hword .null hb h
    · split at h
      · next hb => exact hword .true hb h
      · split at h
        · next hb => exact hword .false hb h
        · split at h
          · next hb =>
            obtain ⟨⟨n, s₁⟩, hnumber, h⟩ := bind_eq_ok_iff.mp h
            cases h
            obtain ⟨t, rfl, l, hl, hsign, hvalue⟩ := number_sound _ _ _ _ hnumber
            exact ⟨Ascii.minus :: t, by rw [hb]; rfl, .inl (.negative hl hsign hvalue)⟩
          · split at h
            · obtain ⟨⟨n, s₁⟩, hnumber, h⟩ := bind_eq_ok_iff.mp h
              cases h
              obtain ⟨t, ht, l, hl, hsign, hvalue⟩ := number_sound _ _ _ _ hnumber
              exact ⟨t, ht, .inl (.positive hl hsign hvalue)⟩
            · split at h
              · next hb =>
                obtain ⟨⟨text, s₁⟩, htext, h⟩ := bind_eq_ok_iff.mp h
                cases h
                obtain ⟨_, rfl, u, rfl, hu⟩ := string_sound _ _ _ htext
                exact ⟨Ascii.quote :: (u ++ [Ascii.quote]), by rw [hb]; rfl, .inl (.str (.mk hu))⟩
              · split at h
                · next hb =>
                  cases nested with
                  | none => cases h
                  | some item =>
                    obtain ⟨⟨vs, s₁⟩, hlist, h⟩ := bind_eq_ok_iff.mp h
                    cases h
                    obtain ⟨t, rfl, ht⟩ := list_sound _ (hnested item rfl) _ _ _ hlist
                    exact ⟨Ascii.openBracket :: t, by rw [hb]; rfl, .inr ⟨⟨item, rfl⟩, ht⟩⟩
                · split at h
                  · next hb =>
                    cases nested with
                    | none => cases h
                    | some item =>
                      obtain ⟨⟨ms, s₁⟩, hobject, h⟩ := bind_eq_ok_iff.mp h
                      cases h
                      obtain ⟨t, rfl, ht⟩ := object_sound _ (hnested item rfl) _ _ _ hobject
                      exact ⟨Ascii.openBrace :: t, by rw [hb]; rfl, .inr ⟨⟨item, rfl⟩, ht⟩⟩
                  · cases h

/-- What a reader takes is a text of the value, with no more nesting than it allows. -/
theorem value_sound (n : Nat) : Sound (value n) fun v => Led (IsText n v) := by
  induction n with
  | zero =>
    intro s v rest h
    obtain ⟨t, ht, before, u, hbefore, hu, rfl⟩ :=
      valueWith_sound (P := fun _ _ => False) (by simp) s v rest h
    rcases hu with hu | ⟨⟨_, hnone⟩, _⟩
    · exact ⟨_, ht, before, u, hbefore, hu, rfl⟩
    · cases hnone
  | succ n ih =>
    intro s v rest h
    obtain ⟨t, ht, before, u, hbefore, hu, rfl⟩ :=
      valueWith_sound (P := IsText n) (by rintro item ⟨⟩; exact ih) s v rest h
    exact ⟨_, ht, before, u, hbefore, hu.imp_right And.right, rfl⟩

theorem finish_eq_ok_iff {s : List UInt8} : finish s = .ok () ↔ Blanks s := by
  constructor
  · intro h
    rw [finish] at h
    split at h
    · next hskip =>
      obtain ⟨blanks, hblanks, rfl⟩ := exists_blanks_of_skipBlanks hskip
      rwa [List.append_nil]
    · cases h
  · intro h
    have hskip := skipBlanks_append h []
    rw [List.append_nil, skipBlanks] at hskip
    rw [finish, hskip]

/-- A text is accepted exactly if it is a text of the grammar between blanks, and the value is the
one it stands for. -/
theorem parse_eq_ok_iff {s : List UInt8} {v : Json} :
    parse s = .ok v ↔ Padded (IsText maxNesting v) s := by
  constructor
  · intro h
    obtain ⟨⟨w, rest⟩, hvalue, h⟩ := bind_eq_ok_iff.mp h
    obtain ⟨u, hfinish, h⟩ := bind_eq_ok_iff.mp h
    cases h
    obtain ⟨t, rfl, ht⟩ := value_sound _ _ _ _ hvalue
    exact ht.padded (finish_eq_ok_iff.mp hfinish)
  · intro h
    cases h with
    | mk hbefore ht hafter =>
      rename_i before t after
      have hends : EndsNumber (after ++ []) :=
        EndsNumber.blanks_append hafter (by simp [EndsNumber])
      rw [List.append_nil] at hends
      rw [parse, value_isText ht before after hbefore hends, ok_bind]
      dsimp only
      rw [finish_eq_ok_iff.mpr hafter, ok_bind]

end LspProbe.Json
