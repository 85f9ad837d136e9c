import LspProbe.Proofs.Json.Grammar
import LspProbe.Proofs.Steps
import LspProbe.Proofs.Utf8

/-!
# Readers take every text

Every text of the grammar is taken by a reader that allows as much nesting as the text has, and
the reader leaves exactly what follows. Only numbers have no end of their own: what follows one
must not go on with it.
-/

namespace LspProbe.Json

theorem skipBlanks_append {blanks : List UInt8} (h : Blanks blanks) (s : List UInt8) :
    skipBlanks (blanks ++ s) = skipBlanks s := by
  induction blanks with
  | nil => rfl
  | cons b blanks ih =>
    have hb : isBlank b = true := h b List.mem_cons_self
    rw [List.cons_append, skipBlanks, if_pos hb]
    exact ih fun c hc => h c (List.mem_cons_of_mem b hc)

theorem skipBlanks_cons {b : UInt8} (h : isBlank b = false) (s : List UInt8) :
    skipBlanks (b :: s) = b :: s := by
  simp [skipBlanks, h]

/-- What follows does not go on with the digits before it. -/
def NoDigit (s : List UInt8) : Prop := ∀ b ∈ s.head?, Ascii.digit? b = none

/-- What follows does not go on with the number before it. -/
def EndsNumber (s : List UInt8) : Prop :=
  ∀ b ∈ s.head?, Ascii.digit? b = none ∧ b ≠ Ascii.point ∧ b ≠ Ascii.lowerE ∧ b ≠ Ascii.upperE

private theorem EndsNumber.noDigit {s : List UInt8} (h : EndsNumber s) : NoDigit s :=
  fun b hb => (h b hb).1

theorem digit?_digitByte {d : Nat} (h : d < 10) : Ascii.digit? (digitByte d) = some d :=
  (show ∀ d < 10, Ascii.digit? (digitByte d) = some d by decide) d h

theorem digits_digitBytes {ds : List Nat} (hds : ∀ d ∈ ds, d < 10) {rest : List UInt8}
    (hrest : NoDigit rest) : Ascii.digits (digitBytes ds ++ rest) = (ds, rest) := by
  induction ds with
  | nil =>
    cases rest with
    | nil => rfl
    | cons b rest =>
      have hb : Ascii.digit? b = none := hrest b rfl
      simp [digitBytes, Ascii.digits, hb]
  | cons d ds ih =>
    have hd := digit?_digitByte (hds d List.mem_cons_self)
    have htail := ih fun e he => hds e (List.mem_cons_of_mem d he)
    simp only [digitBytes, List.map_cons, List.cons_append, Ascii.digits, hd] at htail ⊢
    rw [htail]

theorem whole_digitBytes (w : Wording) {ds : List Nat} (h : IsWhole ds) {rest : List UInt8}
    (hrest : NoDigit rest) : whole w (digitBytes ds ++ rest) = .ok (ds, rest) := by
  obtain ⟨d, ds, rfl⟩ := List.exists_cons_of_ne_nil h.ne_nil
  have hd := digit?_digitByte (h.lt_ten d List.mem_cons_self)
  have htail := digits_digitBytes (fun e he => h.lt_ten e (List.mem_cons_of_mem d he)) hrest
  simp only [digitBytes, List.map_cons, List.cons_append, whole, hd] at htail ⊢
  cases d with
  | zero =>
    have hnil : ds = [] := by simpa using h.zero_alone rfl
    subst hnil
    have hdigits : (Ascii.digits rest).1 = [] := by simpa using congrArg Prod.fst htail
    simp [hdigits]
  | succ d => simp only [htail]

theorem fraction_bytes (w : Wording) {ds : List Nat} {s : List UInt8} (h : IsFraction ds s)
    {rest : List UInt8} (hrest : NoDigit rest) (hpoint : ∀ b ∈ rest.head?, b ≠ Ascii.point) :
    fraction w (s ++ rest) = .ok (ds, rest) := by
  cases h with
  | absent =>
    cases rest with
    | nil => rfl
    | cons b rest => simp [fraction, hpoint b rfl]
  | point h =>
    obtain ⟨d, ds, rfl⟩ := List.exists_cons_of_ne_nil h.ne_nil
    rw [List.cons_append, fraction, if_pos rfl, digits_digitBytes h.lt_ten hrest]

theorem powerSign_bytes {negative : Bool} {sign : List UInt8} (h : IsSign negative sign)
    {d : Nat} (hd : d < 10) (rest : List UInt8) :
    powerSign (sign ++ digitByte d :: rest) = (negative, digitByte d :: rest) := by
  cases h with
  | absent =>
    have hplus : digitByte d ≠ Ascii.plus ∧ digitByte d ≠ Ascii.minus :=
      (show ∀ d < 10, digitByte d ≠ Ascii.plus ∧ digitByte d ≠ Ascii.minus by decide) d hd
    simp [powerSign, hplus.1, hplus.2]
  | plus => rfl
  | minus => rfl

theorem power_bytes (w : Wording) {p : Option Number.Power} {s : List UInt8} (h : IsPower p s)
    {rest : List UInt8} (hrest : EndsNumber rest) : power w (s ++ rest) = .ok (p, rest) := by
  cases h with
  | absent =>
    cases rest with
    | nil => rfl
    | cons b rest =>
      obtain ⟨_, _, he, hE⟩ := hrest b rfl
      simp [power, he, hE]
  | mark he hsign hds =>
    rename_i e negative sign ds
    have hdigits := digits_digitBytes hds.lt_ten hrest.noDigit
    obtain ⟨d, ds, rfl⟩ := List.exists_cons_of_ne_nil hds.ne_nil
    have hs := powerSign_bytes hsign (hds.lt_ten d List.mem_cons_self) (digitBytes ds ++ rest)
    rw [List.cons_append, power, if_pos he, List.append_assoc]
    simp only [digitBytes, List.map_cons, List.cons_append] at hs hdigits ⊢
    simp only [hs, hdigits]

private theorem head?_power_append {p : Option Number.Power} {s : List UInt8} (h : IsPower p s)
    {rest : List UInt8} (hrest : EndsNumber rest) :
    ∀ b ∈ (s ++ rest).head?, Ascii.digit? b = none ∧ b ≠ Ascii.point := by
  cases h with
  | absent =>
    intro b hb
    obtain ⟨hdigit, hpoint, _, _⟩ := hrest b hb
    exact ⟨hdigit, hpoint⟩
  | mark he hsign hds =>
    intro b hb
    cases hb
    rcases he with rfl | rfl <;> decide

private theorem noDigit_fraction_append {ds : List Nat} {s : List UInt8} (h : IsFraction ds s)
    {rest : List UInt8} (hrest : NoDigit rest) : NoDigit (s ++ rest) := by
  cases h with
  | absent => exact hrest
  | point h =>
    intro b hb
    cases hb
    rfl

theorem literal_bytes (w : Wording) {l : Number.Literal} {s : List UInt8} (h : IsLiteral l s)
    {rest : List UInt8} (hrest : EndsNumber rest) :
    literal w l.negative (s ++ rest) = .ok (l, rest) := by
  cases h with
  | mk hwhole hfraction hpower =>
    rename_i f p
    have hafter := head?_power_append hpower hrest
    have hnodigit := noDigit_fraction_append hfraction fun b hb => (hafter b hb).1
    rw [literal, List.append_assoc, List.append_assoc, whole_digitBytes w hwhole hnodigit, ok_bind]
    dsimp only
    rw [fraction_bytes w hfraction (fun b hb => (hafter b hb).1) (fun b hb => (hafter b hb).2),
      ok_bind]
    dsimp only
    rw [power_bytes w hpower hrest, ok_bind]

theorem number_bytes {l : Number.Literal} {n : Number} {s : List UInt8} (h : IsLiteral l s)
    (hvalue : l.value = .ok n) {rest : List UInt8} (hrest : EndsNumber rest) :
    number l.negative (s ++ rest) = .ok (n, rest) := by
  rw [number, literal_bytes .keeping h hrest, ok_bind]
  simp only [hvalue]

/-- A byte that stands for itself between quotes. -/
def IsPlainByte (b : UInt8) : Prop := b ≠ Ascii.quote ∧ b ≠ Ascii.backslash ∧ ¬b < 0x20

private theorem isPlainByte_ofNat {n : Nat} (hn : n < 256) (hquote : n ≠ 0x22)
    (hbackslash : n ≠ 0x5C) (hcontrol : 0x20 ≤ n) : IsPlainByte (UInt8.ofNat n) := by
  have htoNat : (UInt8.ofNat n).toNat = n := by
    rw [UInt8.toNat_ofNat']
    omega
  refine ⟨fun h => hquote ?_, fun h => hbackslash ?_, fun h => ?_⟩
  · rw [← htoNat, h]
    rfl
  · rw [← htoNat, h]
    rfl
  · rw [UInt8.lt_iff_toNat_lt, htoNat] at h
    exact absurd hcontrol (by simpa using h)

theorem isPlainByte_of_mem_utf8EncodeChar {c : Char} (hquote : c ≠ '"') (hbackslash : c ≠ '\\')
    (hcontrol : 0x20 ≤ c.toNat) : ∀ b ∈ String.utf8EncodeChar c, IsPlainByte b := by
  have hq : c.toNat ≠ 0x22 := fun h => hquote (Char.toNat_inj.mp h)
  have hb : c.toNat ≠ 0x5C := fun h => hbackslash (Char.toNat_inj.mp h)
  have hval : c.val.toNat = c.toNat := rfl
  intro b hmem
  rw [String.utf8EncodeChar, hval] at hmem
  split at hmem
  · cases List.mem_singleton.mp hmem
    exact isPlainByte_ofNat (by omega) hq hb hcontrol
  · split at hmem
    · simp only [List.mem_cons, List.not_mem_nil, or_false] at hmem
      rcases hmem with rfl | rfl <;>
        exact isPlainByte_ofNat (by omega) (by omega) (by omega) (by omega)
    · split at hmem
      · simp only [List.mem_cons, List.not_mem_nil, or_false] at hmem
        rcases hmem with rfl | rfl | rfl <;>
          exact isPlainByte_ofNat (by omega) (by omega) (by omega) (by omega)
      · simp only [List.mem_cons, List.not_mem_nil, or_false] at hmem
        rcases hmem with rfl | rfl | rfl | rfl <;>
          exact isPlainByte_ofNat (by omega) (by omega) (by omega) (by omega)

private theorem stringBytes_plain {bytes : List UInt8} (h : ∀ b ∈ bytes, IsPlainByte b)
    {budget : Nat} {s more rest : List UInt8} (hs : stringBytes budget s = .ok (more, rest)) :
    stringBytes (bytes.length + budget) (bytes ++ s) = .ok (bytes ++ more, rest) := by
  induction bytes with
  | nil => simpa using hs
  | cons b bytes ih =>
    obtain ⟨hquote, hbackslash, hcontrol⟩ := h b List.mem_cons_self
    have hlength : (b :: bytes).length + budget = (bytes.length + budget) + 1 := by
      simp only [List.length_cons]
      omega
    rw [hlength, List.cons_append, stringBytes, if_neg hquote, if_neg hbackslash, if_neg hcontrol,
      ih fun c hc => h c (List.mem_cons_of_mem b hc)]
    rfl

theorem unit_bytes {u : Nat} {s : List UInt8} (h : IsUnit u s) (rest : List UInt8) :
    unit (s ++ rest) = .ok (u, rest) := by
  cases h with
  | mk ha hb hc hd => simp [unit, ha, hb, hc, hd]

private theorem escaped_letter {b : UInt8} {c : Char} (h : IsEscape b c) (rest : List UInt8) :
    escaped (b :: rest) = .ok (String.utf8EncodeChar c, rest) := by
  cases h <;> rfl

private theorem escaped_unit {u : Nat} {s : List UInt8} (h : IsUnit u s)
    (hsurrogate : ¬(0xD800 ≤ u ∧ u < 0xE000)) (rest : List UInt8) :
    escaped (Ascii.lowerU :: (s ++ rest)) = .ok (String.utf8EncodeChar (Char.ofNat u), rest) := by
  have hlow : ¬(0xDC00 ≤ u ∧ u < 0xE000) := by omega
  have hhigh : ¬(0xD800 ≤ u ∧ u < 0xDC00) := by omega
  rw [escaped, if_pos rfl, codePoint, unit_bytes h, ok_bind]
  dsimp only
  rw [if_neg hlow, if_neg hhigh, ok_bind]

private theorem escaped_pair {high low : Nat} {s t : List UInt8} (hhigh : IsUnit high s)
    (hhigh' : 0xD800 ≤ high ∧ high < 0xDC00) (hlow : IsUnit low t)
    (hlow' : 0xDC00 ≤ low ∧ low < 0xE000) (rest : List UInt8) :
    escaped (Ascii.lowerU :: (s ++ (Ascii.backslash :: Ascii.lowerU :: (t ++ rest)))) =
      .ok (String.utf8EncodeChar
        (Char.ofNat (0x10000 + (high - 0xD800) * 0x400 + (low - 0xDC00))), rest) := by
  have hnot : ¬(0xDC00 ≤ high ∧ high < 0xE000) := by omega
  have hhalf : lowHalf high (Ascii.backslash :: Ascii.lowerU :: (t ++ rest)) =
      .ok (0x10000 + (high - 0xD800) * 0x400 + (low - 0xDC00), rest) := by
    rw [lowHalf, if_neg (by simp), if_neg (by simp), unit_bytes hlow, ok_bind]
    dsimp only
    rw [if_pos hlow']
  rw [escaped, if_pos rfl, codePoint, unit_bytes hhigh, ok_bind]
  dsimp only
  rw [if_neg hnot, if_pos hhigh', hhalf, ok_bind]

/-- One escape, then the rest of a string. -/
private theorem stringBytes_escaped {s t bytes more rest : List UInt8} {budget : Nat}
    (hs : escaped s = .ok (bytes, t)) (ht : stringBytes budget t = .ok (more, rest)) :
    stringBytes (budget + 1) (Ascii.backslash :: s) = .ok (bytes ++ more, rest) := by
  rw [stringBytes, if_neg (by decide), if_pos rfl, hs, ok_bind]
  dsimp only
  rw [ht, ok_bind]

theorem stringBytes_content {cs : List Char} {s : List UInt8} (h : IsContent cs s)
    (rest : List UInt8) {budget : Nat} (hbudget : s.length < budget) :
    stringBytes budget (s ++ Ascii.quote :: rest) =
      .ok (cs.flatMap String.utf8EncodeChar, rest) := by
  induction h generalizing budget with
  | nil =>
    obtain ⟨budget, rfl⟩ := Nat.exists_eq_succ_of_ne_zero (Nat.ne_zero_of_lt hbudget)
    rfl
  | @plain c cs s hquote hbackslash hcontrol h ih =>
    rw [List.length_append] at hbudget
    obtain ⟨budget, rfl⟩ := Nat.exists_eq_add_of_le
      (show (String.utf8EncodeChar c).length ≤ budget by omega)
    rw [List.append_assoc, List.flatMap_cons]
    exact stringBytes_plain (isPlainByte_of_mem_utf8EncodeChar hquote hbackslash hcontrol)
      (ih (by omega))
  | @letter b c cs s hb h ih =>
    simp only [List.length_cons] at hbudget
    obtain ⟨budget, rfl⟩ := Nat.exists_eq_succ_of_ne_zero (Nat.ne_zero_of_lt hbudget)
    exact stringBytes_escaped (escaped_letter hb _) (ih (by omega))
  | @unit u t cs s hu hsurrogate h ih =>
    simp only [List.length_cons, List.length_append] at hbudget
    obtain ⟨budget, rfl⟩ := Nat.exists_eq_succ_of_ne_zero (Nat.ne_zero_of_lt hbudget)
    rw [List.cons_append, List.cons_append, List.append_assoc]
    exact stringBytes_escaped (escaped_unit hu hsurrogate _) (ih (by omega))
  | @pair high low t t' cs s hhigh hhigh' hlow hlow' h ih =>
    simp only [List.length_cons, List.length_append] at hbudget
    obtain ⟨budget, rfl⟩ := Nat.exists_eq_succ_of_ne_zero (Nat.ne_zero_of_lt hbudget)
    rw [List.cons_append, List.cons_append, List.append_assoc, List.cons_append, List.cons_append,
      List.append_assoc]
    exact stringBytes_escaped (escaped_pair hhigh hhigh' hlow hlow' _) (ih (by omega))

theorem string_content {text : String} {s : List UInt8} (h : IsContent text.toList s)
    (rest : List UInt8) : string (s ++ Ascii.quote :: rest) = .ok (text, rest) := by
  have hbudget : s.length < (s ++ Ascii.quote :: rest).length + 1 := by
    rw [List.length_append]
    omega
  rw [string, stringBytes_content h rest hbudget, ok_bind]
  have htext := Utf8.text_encode text
  rw [Utf8.encode] at htext
  simp only [htext]

/-- A reader takes a text, after any blanks, and leaves what follows it. -/
def Reads {α : Type} (reader : Reader α) (a : α) (s : List UInt8) : Prop :=
  ∀ before rest, Blanks before → EndsNumber rest →
    reader (before ++ (s ++ rest)) = .ok (a, rest)

/-- A reader takes a text, after any blanks, as what is given, and refuses it if nothing is. -/
def Views {α : Type} (reader : Reader α) (a? : Option α) (s : List UInt8) : Prop :=
  ∀ before rest, Blanks before → EndsNumber rest →
    (reader (before ++ (s ++ rest))).toOption = a?.map (·, rest)

theorem Reads.views {α : Type} {reader : Reader α} {a : α} {s : List UInt8}
    (h : Reads reader a s) : Views reader (some a) s := by
  intro before rest hbefore hrest
  rw [h before rest hbefore hrest]
  rfl

/-- What a text starts with: no blank, and nothing that closes a list or an object. -/
def Opens (s : List UInt8) : Prop :=
  ∃ b t, s = b :: t ∧ isBlank b = false ∧ b ≠ Ascii.closeBracket ∧ b ≠ Ascii.closeBrace

private theorem endsNumber_of_blank {b : UInt8} (h : isBlank b = true) (s : List UInt8) :
    EndsNumber (b :: s) := by
  intro c hc
  cases hc
  simp only [isBlank, Bool.or_eq_true, decide_eq_true_eq] at h
  rcases h with ((rfl | rfl) | rfl) | rfl <;> decide

theorem EndsNumber.blanks_append {blanks rest : List UInt8} (hblanks : Blanks blanks)
    (hrest : EndsNumber rest) : EndsNumber (blanks ++ rest) := by
  cases blanks with
  | nil => exact hrest
  | cons b blanks => exact endsNumber_of_blank (hblanks b List.mem_cons_self) _

theorem endsNumber_cons {b : UInt8} (h : b ∈ [Ascii.comma, Ascii.closeBracket, Ascii.closeBrace])
    (s : List UInt8) : EndsNumber (b :: s) := by
  intro c hc
  cases hc
  simp only [List.mem_cons, List.not_mem_nil, or_false] at h
  rcases h with rfl | rfl | rfl <;> decide

theorem skipBlanks_opens {before s : List UInt8} (hbefore : Blanks before) (h : Opens s)
    (rest : List UInt8) : skipBlanks (before ++ (s ++ rest)) = s ++ rest := by
  obtain ⟨b, t, rfl, hb, _⟩ := h
  rw [skipBlanks_append hbefore, List.cons_append, skipBlanks_cons hb]

theorem Padded.opens {P : List UInt8 → Prop} (hP : ∀ s, P s → Opens s) {t : List UInt8}
    (h : Padded P t) (rest : List UInt8) : Opens (skipBlanks (t ++ rest)) := by
  cases h with
  | mk hbefore h hafter =>
    rename_i before s after
    have hopens := hP s h
    rw [List.append_assoc, List.append_assoc, skipBlanks_opens hbefore hopens]
    obtain ⟨b, t, rfl, hb⟩ := hopens
    exact ⟨b, _, rfl, hb⟩

private theorem Padded.length_lt {P : List UInt8 → Prop} (hP : ∀ s, P s → Opens s) {t : List UInt8}
    (h : Padded P t) (rest : List UInt8) : rest.length < (skipBlanks (t ++ rest)).length := by
  cases h with
  | mk hbefore h hafter =>
    rename_i before s after
    have hopens := hP s h
    rw [List.append_assoc, List.append_assoc, skipBlanks_opens hbefore hopens]
    obtain ⟨b, t, rfl, _⟩ := hopens
    simp only [List.length_append, List.length_cons]
    omega

private theorem length_skipBlanks_le (s : List UInt8) : (skipBlanks s).length ≤ s.length := by
  induction s with
  | nil => exact Nat.le_refl _
  | cons b s ih =>
    rw [skipBlanks]
    split
    · exact Nat.le_succ_of_le ih
    · exact Nat.le_refl _

/-- Each of the things between commas takes at least one byte that is no blank. -/
private theorem Separated.length_add_le {α : Type} {Q : α → List UInt8 → Prop}
    (hQ : ∀ a t rest, Q a t → rest.length < (skipBlanks (t ++ rest)).length) {as : List α}
    {s : List UInt8} (h : Separated Q as s) (rest : List UInt8) :
    as.length + rest.length ≤ (skipBlanks (s ++ rest)).length := by
  induction h with
  | last h =>
    have hlt := hQ _ _ rest h
    simp only [List.length_singleton]
    omega
  | @more a as s t h hrest ih =>
    have hlt := hQ _ _ (Ascii.comma :: (t ++ rest)) h
    have hle := length_skipBlanks_le (t ++ rest)
    rw [List.append_assoc, List.cons_append]
    simp only [List.length_cons] at hlt ⊢
    omega

theorem Separated.opens {α : Type} {Q : α → List UInt8 → Prop}
    (hQ : ∀ a t rest, Q a t → Opens (skipBlanks (t ++ rest))) {as : List α} {s : List UInt8}
    (h : Separated Q as s) (rest : List UInt8) : Opens (skipBlanks (s ++ rest)) := by
  cases h with
  | last h => exact hQ _ _ _ h
  | more h hrest =>
    rw [List.append_assoc]
    exact hQ _ _ _ h

/-- A text with blanks around it, viewed with those before it; those behind it are left. -/
theorem Padded.view {α : Type} {reader : Reader α} {a? : Option α} {P : List UInt8 → Prop}
    (hP : ∀ s, P s → Views reader a? s) {t : List UInt8} (h : Padded P t) {rest : List UInt8}
    (hrest : EndsNumber rest) :
    ∃ after, Blanks after ∧ (reader (t ++ rest)).toOption = a?.map (·, after ++ rest) := by
  cases h with
  | @mk before s after hbefore h hafter =>
    refine ⟨after, hafter, ?_⟩
    rw [List.append_assoc, List.append_assoc]
    exact hP s h before _ hbefore (hrest.blanks_append hafter)

/-- The same after the blanks before the text. -/
theorem Padded.view_skipBlanks {α : Type} {reader : Reader α} {a? : Option α}
    {P : List UInt8 → Prop} (hP : ∀ s, P s → Views reader a? s ∧ Opens s) {t : List UInt8}
    (h : Padded P t) {rest : List UInt8} (hrest : EndsNumber rest) :
    ∃ after, Blanks after ∧
      (reader (skipBlanks (t ++ rest))).toOption = a?.map (·, after ++ rest) := by
  cases h with
  | @mk before s after hbefore h hafter =>
    obtain ⟨hview, hopens⟩ := hP s h
    refine ⟨after, hafter, ?_⟩
    rw [List.append_assoc, List.append_assoc, skipBlanks_opens hbefore hopens]
    exact hview [] _ (by simp [Blanks]) (hrest.blanks_append hafter)

theorem Padded.read {α : Type} {reader : Reader α} {a : α} {P : List UInt8 → Prop}
    (hP : ∀ s, P s → Reads reader a s ∧ Opens s) {t : List UInt8} (h : Padded P t)
    {rest : List UInt8} (hrest : EndsNumber rest) :
    ∃ after, Blanks after ∧ reader (skipBlanks (t ++ rest)) = .ok (a, after ++ rest) := by
  obtain ⟨after, hafter, hview⟩ :=
    h.view_skipBlanks (fun s hs => ⟨(hP s hs).1.views, (hP s hs).2⟩) hrest
  exact ⟨after, hafter, toOption_eq_some_iff.mp hview⟩

section Lists

variable {α : Type} {P : Json → List UInt8 → Prop} {item : Reader α} {f : Json → α} (w : Wording)

/-- The items of a list, up to its closing bracket, each as `f` of its value. -/
theorem elements_separated (hitem : ∀ v s, P v s → Reads item (f v) s ∧ Opens s)
    {items : List Json} {s : List UInt8} (h : Separated (fun v => Padded (P v)) items s)
    (rest : List UInt8) {budget : Nat} (hbudget : items.length ≤ budget) :
    elements w item budget (skipBlanks (s ++ Ascii.closeBracket :: rest)) =
      .ok (items.map f, rest) := by
  induction h generalizing budget with
  | @last v s h =>
    obtain ⟨budget, rfl⟩ := Nat.exists_eq_add_of_le' hbudget
    have hfollow : EndsNumber (Ascii.closeBracket :: rest) := endsNumber_cons (by simp) rest
    obtain ⟨after, hafter, hread⟩ := h.read (hitem v) hfollow
    rw [List.length_singleton, elements, hread, ok_bind]
    dsimp only
    rw [skipBlanks_append hafter, skipBlanks_cons (by decide)]
    rfl
  | @more v vs s t h hrest ih =>
    obtain ⟨budget, rfl⟩ := Nat.exists_eq_add_of_le' hbudget
    have hfollow : EndsNumber (Ascii.comma :: (t ++ Ascii.closeBracket :: rest)) :=
      endsNumber_cons (by simp) _
    obtain ⟨after, hafter, hread⟩ := h.read (hitem v) hfollow
    have hmore := ih (show vs.length ≤ budget + vs.length by omega)
    obtain ⟨c, u, hu, _, hc, _⟩ := hrest.opens
      (fun v t rest h => h.opens (fun s hs => (hitem v s hs).2) rest)
      (Ascii.closeBracket :: rest)
    rw [List.append_assoc, List.cons_append, List.length_cons, ← Nat.add_assoc, elements, hread,
      ok_bind]
    dsimp only
    rw [skipBlanks_append hafter, skipBlanks_cons (by decide)]
    dsimp only
    rw [if_neg (by decide), if_pos rfl, hu]
    rw [hu] at hmore
    dsimp only
    rw [if_neg hc, hmore, ok_bind]
    rfl

theorem list_container (hitem : ∀ v s, P v s → Reads item (f v) s ∧ Opens s)
    {items : List Json} {s : List UInt8} (h : Separated (fun v => Padded (P v)) items s)
    (rest : List UInt8) :
    list w item (s ++ Ascii.closeBracket :: rest) = .ok (items.map f, rest) := by
  have hP : ∀ v s, P v s → Opens s := fun v s hs => (hitem v s hs).2
  have hlength := h.length_add_le (fun v t rest h => h.length_lt (hP v) rest)
    (Ascii.closeBracket :: rest)
  have hread (budget : Nat) (hbudget : items.length ≤ budget) :=
    elements_separated w hitem h rest hbudget
  obtain ⟨b, t, ht, _, hb, _⟩ := h.opens (fun v t rest h => h.opens (hP v) rest)
    (Ascii.closeBracket :: rest)
  rw [ht] at hlength hread
  rw [list, ht]
  dsimp only
  rw [if_neg hb]
  exact hread _ (by simp only [List.length_cons] at hlength; omega)

theorem list_blanks (item : Reader α) {s : List UInt8} (h : Blanks s) (rest : List UInt8) :
    list w item (s ++ Ascii.closeBracket :: rest) = .ok ([], rest) := by
  rw [list, skipBlanks_append h, skipBlanks_cons (by decide)]
  rfl

end Lists

section Members

variable {σ : Type} {P : Json → List UInt8 → Prop} (w : Wording)

private theorem isQuoted_opens {key : String} {s : List UInt8} (h : IsQuoted key s) : Opens s := by
  cases h
  exact ⟨_, _, rfl, by decide, by decide, by decide⟩

private theorem isMember_opens {m : String × Json} {s : List UInt8} (h : IsMember P m s)
    (rest : List UInt8) : Opens (skipBlanks (s ++ rest)) := by
  cases h with
  | mk hkey hvalue =>
    rw [List.append_assoc]
    exact hkey.opens (fun s hs => isQuoted_opens hs) _

private theorem isMember_length_lt {m : String × Json} {s : List UInt8} (h : IsMember P m s)
    (rest : List UInt8) : rest.length < (skipBlanks (s ++ rest)).length := by
  cases h with
  | @mk key v s t hkey hvalue =>
    have hlt := hkey.length_lt (fun s hs => isQuoted_opens hs) (Ascii.colon :: (t ++ rest))
    rw [List.append_assoc, List.cons_append]
    simp only [List.length_cons, List.length_append] at hlt ⊢
    omega

/-- The parts of a member after the blanks before it: a key in quotes, a colon and a value. -/
theorem IsMember.parts {m : String × Json} {s : List UInt8} (h : IsMember P m s)
    (rest : List UInt8) :
    ∃ content t u, skipBlanks (s ++ rest) = Ascii.quote :: (content ++ Ascii.quote :: t) ∧
      IsContent m.1.toList content ∧ colon t = .ok (u ++ rest) ∧ Padded (P m.2) u := by
  cases h with
  | @mk key v s u hkey hvalue =>
    cases hkey with
    | @mk before q after hbefore hquoted hafter =>
      cases hquoted with
      | @mk content hcontent =>
        refine ⟨content, after ++ Ascii.colon :: (u ++ rest), u, ?_, hcontent, ?_, hvalue⟩
        · simp only [List.append_assoc, List.cons_append, List.nil_append]
          rw [skipBlanks_append hbefore, skipBlanks_cons (by decide)]
        · rw [colon, skipBlanks_append hafter, skipBlanks_cons (by decide)]
          rfl

/-- A reader of members, each after the quote that opens its key, changes its state as `step` says
and refuses what `step` refuses. The blanks behind a member are left. -/
def Follows (P : Json → List UInt8 → Prop) (member : σ → Reader σ)
    (step : σ → String × Json → Option σ) : Prop :=
  ∀ state m s rest, IsMember P m s → EndsNumber rest →
    ∃ t after, skipBlanks (s ++ rest) = Ascii.quote :: t ∧ Blanks after ∧
      (member state t).toOption = (step state m).map (·, after ++ rest)

private theorem keptMember_follows {item : Reader Json} (hitem : ∀ v s, P v s → Reads item v s) :
    Follows P (keptMember item) fun soFar m => some (Members.insert m.1 m.2 soFar) := by
  intro soFar m s rest h hrest
  obtain ⟨content, t, u, hskip, hcontent, hcolon, hvalue⟩ := h.parts rest
  obtain ⟨after, hafter, hread⟩ := hvalue.view (fun s hs => (hitem m.2 s hs).views) hrest
  have hitem := toOption_eq_some_iff.mp hread
  refine ⟨content ++ Ascii.quote :: t, after, hskip, hafter, ?_⟩
  rw [keptMember, string_content hcontent, ok_bind]
  dsimp only
  rw [hcolon, ok_bind, hitem, ok_bind]
  rfl

section

variable {member : σ → Reader σ} {step : σ → String × Json → Option σ}

theorem members_separated (hmember : Follows P member step) {ms : Members} {s : List UInt8}
    (h : Separated (IsMember P) ms s) (rest : List UInt8) (state : σ) {budget : Nat}
    (hbudget : ms.length ≤ budget) :
    (members w member budget state (skipBlanks (s ++ Ascii.closeBrace :: rest))).toOption =
      (ms.foldlM step state).map (·, rest) := by
  induction h generalizing budget state with
  | @last m s h =>
    obtain ⟨budget, rfl⟩ := Nat.exists_eq_add_of_le' hbudget
    have hfollow : EndsNumber (Ascii.closeBrace :: rest) := endsNumber_cons (by simp) rest
    obtain ⟨t, after, ht, hafter, hread⟩ := hmember state m s _ h hfollow
    rw [List.length_singleton, ht, members, if_neg (by simp), toOption_bind, hread,
      List.foldlM_cons]
    cases step state m with
    | none => rfl
    | some next =>
      rw [Option.map_some, Option.bind_some]
      dsimp only
      rw [skipBlanks_append hafter, skipBlanks_cons (by decide)]
      rfl
  | @more m ms s t h hrest ih =>
    obtain ⟨budget, rfl⟩ := Nat.exists_eq_add_of_le' hbudget
    have hfollow : EndsNumber (Ascii.comma :: (t ++ Ascii.closeBrace :: rest)) :=
      endsNumber_cons (by simp) _
    obtain ⟨u, after, hu, hafter, hread⟩ := hmember state m s _ h hfollow
    obtain ⟨c, x, hx, _, _, hc⟩ := hrest.opens (fun m t rest h => isMember_opens h rest)
      (Ascii.closeBrace :: rest)
    rw [List.append_assoc, List.cons_append, hu, List.length_cons, ← Nat.add_assoc, members,
      if_neg (by simp), toOption_bind, hread, List.foldlM_cons]
    cases step state m with
    | none => rfl
    | some next =>
      have hmore := ih next (show ms.length ≤ budget + ms.length by omega)
      rw [hx] at hmore
      rw [Option.map_some, Option.bind_some]
      dsimp only
      rw [skipBlanks_append hafter, skipBlanks_cons (by decide)]
      dsimp only
      rw [if_neg (by decide), if_pos rfl, hx]
      dsimp only
      rw [if_neg hc, hmore]
      rfl

/-- The members of an object, up to its closing brace, change a state one after the other. -/
theorem object_container (hmember : Follows P member step) {ms : Members} {s : List UInt8}
    (h : Separated (IsMember P) ms s) (rest : List UInt8) (start : σ) :
    (object w member start (s ++ Ascii.closeBrace :: rest)).toOption =
      (ms.foldlM step start).map (·, rest) := by
  have hlength := h.length_add_le (fun m t rest h => isMember_length_lt h rest)
    (Ascii.closeBrace :: rest)
  have hread (budget : Nat) (hbudget : ms.length ≤ budget) :=
    members_separated w hmember h rest start hbudget
  obtain ⟨b, t, ht, _, _, hb⟩ := h.opens (fun m t rest h => isMember_opens h rest)
    (Ascii.closeBrace :: rest)
  rw [ht] at hlength hread
  rw [object, ht]
  dsimp only
  rw [if_neg hb]
  exact hread _ (by simp only [List.length_cons] at hlength; omega)

end

theorem object_blanks (member : σ → Reader σ) (start : σ) {s : List UInt8} (h : Blanks s)
    (rest : List UInt8) :
    object w member start (s ++ Ascii.closeBrace :: rest) = .ok (start, rest) := by
  rw [object, skipBlanks_append h, skipBlanks_cons (by decide)]
  rfl

theorem object_keptMember {item : Reader Json} (hitem : ∀ v s, P v s → Reads item v s)
    {ms : Members} {s : List UInt8} (h : Separated (IsMember P) ms s) (rest : List UInt8) :
    object w (keptMember item) [] (s ++ Ascii.closeBrace :: rest) =
      .ok (Members.ofList ms, rest) := by
  have hobject := object_container w (keptMember_follows hitem) h rest []
  have hfold : ms.foldlM (fun soFar m => some (Members.insert m.1 m.2 soFar)) [] =
      some (Members.ofList ms) := List.foldlM_pure
  rw [hfold] at hobject
  exact toOption_eq_some_iff.mp hobject

end Members

theorem exists_digit_of_isLiteral {l : Number.Literal} {s : List UInt8} (h : IsLiteral l s) :
    ∃ d t, d < 10 ∧ s = digitByte d :: t := by
  cases h with
  | mk hwhole hfraction hpower =>
    obtain ⟨d, ds, hds⟩ := List.exists_cons_of_ne_nil hwhole.ne_nil
    have hd : d < 10 := hwhole.lt_ten d (by rw [hds]; exact List.mem_cons_self)
    rw [hds]
    exact ⟨d, _, hd, rfl⟩

theorem digitByte_opens : ∀ d < 10, isBlank (digitByte d) = false ∧
    digitByte d ∉ [Ascii.closeBracket, Ascii.closeBrace, Ascii.lowerN, Ascii.lowerT, Ascii.lowerF,
      Ascii.minus] := by
  decide

theorem isScalar_opens {v : Json} {s : List UInt8} (h : IsScalar v s) : Opens s := by
  cases h with
  | null => exact ⟨_, _, rfl, by decide, by decide, by decide⟩
  | true => exact ⟨_, _, rfl, by decide, by decide, by decide⟩
  | false => exact ⟨_, _, rfl, by decide, by decide, by decide⟩
  | positive hl hsign hvalue =>
    obtain ⟨d, t, hd, rfl⟩ := exists_digit_of_isLiteral hl
    obtain ⟨hblank, hother⟩ := digitByte_opens d hd
    simp only [List.mem_cons, not_or] at hother
    exact ⟨_, _, rfl, hblank, hother.1, hother.2.1⟩
  | negative hl hsign hvalue => exact ⟨_, _, rfl, by decide, by decide, by decide⟩
  | str h => exact isQuoted_opens h

theorem valueWith_scalar (nested : Option (Reader Json)) {v : Json} {s : List UInt8}
    (h : IsScalar v s) : Reads (valueWith nested) v s := by
  intro before rest hbefore hrest
  rw [valueWith, skipBlanks_opens hbefore (isScalar_opens h)]
  cases h with
  | null => rfl
  | true => rfl
  | false => rfl
  | positive hl hsign hvalue =>
    rename_i l n
    have hnumber := number_bytes hl hvalue hrest
    rw [hsign] at hnumber
    obtain ⟨d, t, hd, rfl⟩ := exists_digit_of_isLiteral hl
    obtain ⟨_, hother⟩ := digitByte_opens d hd
    simp only [List.mem_cons, List.not_mem_nil, not_or] at hother
    obtain ⟨_, _, hn, ht, hf, hminus, _⟩ := hother
    rw [List.cons_append] at hnumber ⊢
    dsimp only
    rw [if_neg hn, if_neg ht, if_neg hf, if_neg hminus, digit?_digitByte hd, Option.isSome_some,
      if_pos rfl, hnumber, ok_bind]
  | negative hl hsign hvalue =>
    rename_i l n s
    have hnumber := number_bytes hl hvalue hrest
    rw [hsign] at hnumber
    rw [List.cons_append]
    dsimp only
    rw [if_neg (by decide), if_neg (by decide), if_neg (by decide), if_pos rfl, hnumber, ok_bind]
  | str h =>
    cases h with
    | mk hcontent =>
      rename_i s
      rw [List.cons_append, List.append_assoc, List.singleton_append]
      dsimp only
      rw [if_neg (by decide), if_neg (by decide), if_neg (by decide), if_neg (by decide),
        if_neg (by decide), if_pos rfl, string_content hcontent, ok_bind]

theorem isContainer_opens {P : Json → List UInt8 → Prop} {v : Json} {s : List UInt8}
    (h : IsContainer P v s) : Opens s := by
  cases h <;> exact ⟨_, _, rfl, by decide, by decide, by decide⟩

theorem valueWith_bracket (nested : Option (Reader Json)) {s t : List UInt8}
    (h : skipBlanks s = Ascii.openBracket :: t) :
    valueWith nested s =
      match nested with
      | none => .error (.next .nestingLimit (Ascii.openBracket :: t))
      | some item => list .keeping item t >>= fun (items, rest) => .ok (.arr items, rest) := by
  rw [valueWith, h]
  cases nested <;> rfl

theorem valueWith_brace (nested : Option (Reader Json)) {s t : List UInt8}
    (h : skipBlanks s = Ascii.openBrace :: t) :
    valueWith nested s =
      match nested with
      | none => .error (.next .nestingLimit (Ascii.openBrace :: t))
      | some item =>
        object .keeping (keptMember item) [] t >>= fun (ms, rest) => .ok (.obj ms, rest) := by
  rw [valueWith, h]
  cases nested <;> rfl

theorem valueWith_container {P : Json → List UInt8 → Prop} {item : Reader Json}
    (hitem : ∀ v s, P v s → Reads item v s ∧ Opens s) {v : Json} {s : List UInt8}
    (h : IsContainer P v s) : Reads (valueWith (some item)) v s := by
  intro before rest hbefore hrest
  have hskip := skipBlanks_opens hbefore (isContainer_opens h) rest
  cases h with
  | emptyList h =>
    rename_i s
    rw [List.cons_append, List.append_assoc] at hskip ⊢
    rw [valueWith_bracket _ hskip]
    dsimp only
    rw [List.singleton_append, list_blanks .keeping item h, ok_bind]
  | list h =>
    rw [List.cons_append, List.append_assoc] at hskip ⊢
    rw [valueWith_bracket _ hskip]
    dsimp only
    rw [List.singleton_append, list_container (f := id) .keeping hitem h rest, List.map_id, ok_bind]
  | emptyObject h =>
    rename_i s
    rw [List.cons_append, List.append_assoc] at hskip ⊢
    rw [valueWith_brace _ hskip]
    dsimp only
    rw [List.singleton_append, object_blanks .keeping _ [] h, ok_bind]
  | object h =>
    rw [List.cons_append, List.append_assoc] at hskip ⊢
    have hitem' : ∀ v s, P v s → Reads item v s := fun v s hs => (hitem v s hs).1
    rw [valueWith_brace _ hskip]
    dsimp only
    rw [List.singleton_append, object_keptMember .keeping hitem' h rest, ok_bind]

theorem isText_opens {n : Nat} {v : Json} {s : List UInt8} (h : IsText n v s) : Opens s := by
  cases n with
  | zero => exact isScalar_opens h
  | succ n =>
    rcases h with h | h
    · exact isScalar_opens h
    · exact isContainer_opens h

/-- A reader that allows as much nesting as a text has takes it, whatever its blanks, escapes and
numbers look like. -/
theorem value_isText {n : Nat} {v : Json} {s : List UInt8} (h : IsText n v s) :
    Reads (value n) v s := by
  induction n generalizing v s with
  | zero => exact valueWith_scalar none h
  | succ n ih =>
    rcases h with h | h
    · exact valueWith_scalar (some (value n)) h
    · exact valueWith_container (fun v s hs => ⟨ih hs, isText_opens hs⟩) h

theorem parse_isText {v : Json} {s : List UInt8} (h : IsText maxNesting v s) :
    parse s = .ok v := by
  have hread := value_isText h [] [] (by simp [Blanks]) (by simp [EndsNumber])
  rw [List.nil_append, List.append_nil] at hread
  rw [parse, hread, ok_bind]
  rfl

end LspProbe.Json
