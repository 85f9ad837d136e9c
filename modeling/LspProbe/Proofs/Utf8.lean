import LspProbe.Text.Utf8

/-!
# Decoding what was encoded

The bytes of a text decode to that text. Each width of a character is refused by the shorter
widths, which are tried first, and accepted by its own. Nothing else decodes: bytes that read as a
text are its encoding.
-/

namespace LspProbe.Utf8

private theorem toNat_byte {n : Nat} (h : n < 256) : (UInt8.ofNat n).toNat = n := by
  rw [UInt8.toNat_ofNat']
  omega

private theorem continuation?_ofNat {n : Nat} (h : n < 64) :
    continuation? (UInt8.ofNat (n + 128)) = some n := by
  have hn := toNat_byte (show n + 128 < 256 by omega)
  have hrange : (0x80 : UInt8) ≤ UInt8.ofNat (n + 128) ∧ UInt8.ofNat (n + 128) < 0xC0 := by
    rw [UInt8.le_iff_toNat_le, UInt8.lt_iff_toNat_lt, hn]
    exact ⟨Nat.le_add_left 128 n, by simp; omega⟩
  rw [continuation?, if_pos hrange, hn, Nat.add_sub_cancel]

private theorem scalar?_toNat (c : Char) : scalar? c.toNat = some c := by
  have hvalid : c.toNat.isValidChar := c.valid
  rw [scalar?, if_pos hvalid, Char.ofNat_toNat]

private theorem char1?_eq_none {a : UInt8} (h : 0x80 ≤ a.toNat) : char1? a = none := by
  have ha : ¬a < 0x80 := by
    rw [UInt8.lt_iff_toNat_lt]
    simpa using h
  rw [char1?, if_neg ha]

private theorem char2?_eq_none {a : UInt8} (b : UInt8) (h : 0xE0 ≤ a.toNat) :
    char2? a b = none := by
  have ha : ¬(0xC2 ≤ a ∧ a < 0xE0) := by
    rw [UInt8.lt_iff_toNat_lt]
    intro hr
    exact absurd hr.2 (by simpa using h)
  unfold char2?
  cases continuation? b <;> simp [ha]

private theorem char3?_eq_none {a : UInt8} (b c : UInt8) (h : 0xF0 ≤ a.toNat) :
    char3? a b c = none := by
  have ha : ¬a < 0xF0 := by
    rw [UInt8.lt_iff_toNat_lt]
    simpa using h
  unfold char3?
  cases continuation? b <;> cases continuation? c <;> simp [ha]

private theorem char1?_encode {c : Char} (h : c.toNat ≤ 127) :
    char1? (UInt8.ofNat c.toNat) = some c := by
  have hn := toNat_byte (show c.toNat < 256 by omega)
  have hlt : UInt8.ofNat c.toNat < 0x80 := by
    rw [UInt8.lt_iff_toNat_lt, hn]
    exact Nat.lt_succ_of_le h
  rw [char1?, if_pos hlt, hn, Char.ofNat_toNat]

private theorem char2?_encode {c : Char} (hlow : ¬c.toNat ≤ 127) (hhigh : c.toNat ≤ 2047) :
    char2? (UInt8.ofNat (c.toNat / 64 % 32 + 192)) (UInt8.ofNat (c.toNat % 64 + 128)) =
      some c := by
  have ha := toNat_byte (show c.toNat / 64 % 32 + 192 < 256 by omega)
  have hrange : 0xC2 ≤ UInt8.ofNat (c.toNat / 64 % 32 + 192) ∧
      UInt8.ofNat (c.toNat / 64 % 32 + 192) < 0xE0 := by
    rw [UInt8.le_iff_toNat_le, UInt8.lt_iff_toNat_lt, ha]
    simp
    omega
  have hvalue : (c.toNat / 64 % 32 + 192 - 0xC0) * 0x40 + c.toNat % 64 = c.toNat := by omega
  rw [char2?, continuation?_ofNat (Nat.mod_lt _ (by decide))]
  simp only [Option.bind_eq_bind, Option.bind_some]
  rw [if_pos hrange, ha, hvalue, scalar?_toNat]

private theorem char3?_encode {c : Char} (hlow : ¬c.toNat ≤ 2047) (hhigh : c.toNat ≤ 65535) :
    char3? (UInt8.ofNat (c.toNat / 4096 % 16 + 224)) (UInt8.ofNat (c.toNat / 64 % 64 + 128))
      (UInt8.ofNat (c.toNat % 64 + 128)) = some c := by
  have ha := toNat_byte (show c.toNat / 4096 % 16 + 224 < 256 by omega)
  have hvalue : (c.toNat / 4096 % 16 + 224 - 0xE0) * 0x1000 + c.toNat / 64 % 64 * 0x40 +
      c.toNat % 64 = c.toNat := by omega
  have hrange : 0xE0 ≤ UInt8.ofNat (c.toNat / 4096 % 16 + 224) ∧
      UInt8.ofNat (c.toNat / 4096 % 16 + 224) < 0xF0 ∧ 0x800 ≤ c.toNat := by
    rw [UInt8.le_iff_toNat_le, UInt8.lt_iff_toNat_lt, ha]
    simp
    omega
  rw [char3?, continuation?_ofNat (Nat.mod_lt _ (by decide)),
    continuation?_ofNat (Nat.mod_lt _ (by decide))]
  simp only [Option.bind_eq_bind, Option.bind_some]
  rw [ha, hvalue, if_pos hrange, scalar?_toNat]

private theorem char4?_encode {c : Char} (hlow : ¬c.toNat ≤ 65535) :
    char4? (UInt8.ofNat (c.toNat / 262144 % 8 + 240)) (UInt8.ofNat (c.toNat / 4096 % 64 + 128))
      (UInt8.ofNat (c.toNat / 64 % 64 + 128)) (UInt8.ofNat (c.toNat % 64 + 128)) = some c := by
  have hmax : c.toNat < 0x110000 := by
    have hvalid : c.toNat.isValidChar := c.valid
    rcases hvalid with h | h
    · exact Nat.lt_trans h (by decide)
    · exact h.2
  have ha := toNat_byte (show c.toNat / 262144 % 8 + 240 < 256 by omega)
  have hvalue : (c.toNat / 262144 % 8 + 240 - 0xF0) * 0x40000 + c.toNat / 4096 % 64 * 0x1000 +
      c.toNat / 64 % 64 * 0x40 + c.toNat % 64 = c.toNat := by omega
  have hrange : 0xF0 ≤ UInt8.ofNat (c.toNat / 262144 % 8 + 240) ∧
      UInt8.ofNat (c.toNat / 262144 % 8 + 240) < 0xF8 ∧ 0x10000 ≤ c.toNat := by
    rw [UInt8.le_iff_toNat_le, UInt8.lt_iff_toNat_lt, ha]
    simp
    omega
  rw [char4?, continuation?_ofNat (Nat.mod_lt _ (by decide)),
    continuation?_ofNat (Nat.mod_lt _ (by decide)), continuation?_ofNat (Nat.mod_lt _ (by decide))]
  simp only [Option.bind_eq_bind, Option.bind_some]
  rw [ha, hvalue, if_pos hrange, scalar?_toNat]

theorem decode_utf8EncodeChar (c : Char) (rest : List UInt8) :
    decode (String.utf8EncodeChar c ++ rest) = (c :: (decode rest).1, (decode rest).2) := by
  have hval : c.val.toNat = c.toNat := rfl
  rw [String.utf8EncodeChar, hval]
  split
  · rename_i h1
    rw [List.singleton_append, decode.eq_def]
    simp only [char1?_encode h1]
  · rename_i h1
    split
    · rename_i h2
      have ha := toNat_byte (show c.toNat / 64 % 32 + 192 < 256 by omega)
      rw [List.cons_append, List.singleton_append, decode.eq_def]
      simp only [char1?_eq_none (show 0x80 ≤ (UInt8.ofNat _).toNat by rw [ha]; omega),
        char2?_encode h1 h2]
    · rename_i h2
      split
      · rename_i h3
        have ha := toNat_byte (show c.toNat / 4096 % 16 + 224 < 256 by omega)
        rw [List.cons_append, List.cons_append, List.singleton_append, decode.eq_def]
        simp only [char1?_eq_none (show 0x80 ≤ (UInt8.ofNat _).toNat by rw [ha]; omega),
          char2?_eq_none _ (show 0xE0 ≤ (UInt8.ofNat _).toNat by rw [ha]; omega),
          char3?_encode h2 h3]
      · rename_i h3
        have ha := toNat_byte (show c.toNat / 262144 % 8 + 240 < 256 by omega)
        rw [List.cons_append, List.cons_append, List.cons_append, List.singleton_append,
          decode.eq_def]
        simp only [char1?_eq_none (show 0x80 ≤ (UInt8.ofNat _).toNat by rw [ha]; omega),
          char2?_eq_none _ (show 0xE0 ≤ (UInt8.ofNat _).toNat by rw [ha]; omega),
          char3?_eq_none _ _ (show 0xF0 ≤ (UInt8.ofNat _).toNat by rw [ha]; omega),
          char4?_encode h3]

theorem decode_encode (cs : List Char) :
    decode (cs.flatMap String.utf8EncodeChar) = (cs, []) := by
  induction cs with
  | nil => rfl
  | cons c cs ih => rw [List.flatMap_cons, decode_utf8EncodeChar, ih]

theorem text_encode (s : String) : text (encode s) = .ok s := by
  rw [text, encode, decode_encode]
  exact congrArg Except.ok String.ofList_toList

private theorem toNat_ofNat {n : Nat} (h : n.isValidChar) : (Char.ofNat n).toNat = n := by
  rw [Char.ofNat, dif_pos h]
  rfl

private theorem ofNat_eq {b : UInt8} {n : Nat} (h : n = b.toNat) : UInt8.ofNat n = b := by
  rw [h, UInt8.ofNat_toNat]

private theorem toNat_of_continuation? {b : UInt8} {n : Nat} (h : continuation? b = some n) :
    b.toNat = n + 0x80 ∧ n < 0x40 := by
  rw [continuation?, Option.ite_none_right_eq_some, UInt8.le_iff_toNat_le,
    UInt8.lt_iff_toNat_lt] at h
  obtain ⟨⟨hlow, hhigh⟩, h⟩ := h
  have hlow : 0x80 ≤ b.toNat := hlow
  have hhigh : b.toNat < 0xC0 := hhigh
  have hn := Option.some.inj h
  omega

private theorem toNat_of_scalar? {n : Nat} {c : Char} (h : scalar? n = some c) :
    c.val.toNat = n := by
  rw [scalar?, Option.ite_none_right_eq_some] at h
  obtain ⟨hvalid, h⟩ := h
  cases h
  exact toNat_ofNat hvalid

theorem utf8EncodeChar_of_char1? {a : UInt8} {c : Char} (h : char1? a = some c) :
    String.utf8EncodeChar c = [a] := by
  rw [char1?, Option.ite_none_right_eq_some, UInt8.lt_iff_toNat_lt] at h
  obtain ⟨ha, h⟩ := h
  have ha : a.toNat < 0x80 := ha
  have hc : c.val.toNat = a.toNat := by
    cases h
    exact toNat_ofNat (.inl (by omega))
  rw [String.utf8EncodeChar, hc, if_pos (by omega), ofNat_eq rfl]

private theorem utf8EncodeChar_of_char2? {a b : UInt8} {c : Char} (h : char2? a b = some c) :
    String.utf8EncodeChar c = [a, b] := by
  simp only [char2?, Option.bind_eq_bind, Option.bind_eq_some_iff,
    Option.ite_none_right_eq_some, UInt8.le_iff_toNat_le, UInt8.lt_iff_toNat_lt] at h
  obtain ⟨x, hx, ⟨hlow, hhigh⟩, h⟩ := h
  obtain ⟨hb, hx⟩ := toNat_of_continuation? hx
  have hlow : 0xC2 ≤ a.toNat := hlow
  have hhigh : a.toNat < 0xE0 := hhigh
  have hc := toNat_of_scalar? h
  rw [String.utf8EncodeChar, hc, if_neg (by omega), if_pos (by omega)]
  rw [ofNat_eq (b := a) (by omega), ofNat_eq (b := b) (by omega)]

private theorem utf8EncodeChar_of_char3? {a b d : UInt8} {c : Char} (h : char3? a b d = some c) :
    String.utf8EncodeChar c = [a, b, d] := by
  simp only [char3?, Option.bind_eq_bind, Option.bind_eq_some_iff,
    Option.ite_none_right_eq_some, UInt8.le_iff_toNat_le, UInt8.lt_iff_toNat_lt] at h
  obtain ⟨x, hx, y, hy, ⟨hlow, hhigh, hlong⟩, h⟩ := h
  obtain ⟨hb, hx⟩ := toNat_of_continuation? hx
  obtain ⟨hd, hy⟩ := toNat_of_continuation? hy
  have hlow : 0xE0 ≤ a.toNat := hlow
  have hhigh : a.toNat < 0xF0 := hhigh
  have hc := toNat_of_scalar? h
  rw [String.utf8EncodeChar, hc, if_neg (by omega), if_neg (by omega), if_pos (by omega)]
  rw [ofNat_eq (b := a) (by omega), ofNat_eq (b := b) (by omega), ofNat_eq (b := d) (by omega)]

private theorem utf8EncodeChar_of_char4? {a b d e : UInt8} {c : Char}
    (h : char4? a b d e = some c) :
    String.utf8EncodeChar c = [a, b, d, e] := by
  simp only [char4?, Option.bind_eq_bind, Option.bind_eq_some_iff,
    Option.ite_none_right_eq_some, UInt8.le_iff_toNat_le, UInt8.lt_iff_toNat_lt] at h
  obtain ⟨x, hx, y, hy, z, hz, ⟨hlow, hhigh, hlong⟩, h⟩ := h
  obtain ⟨hb, hx⟩ := toNat_of_continuation? hx
  obtain ⟨hd, hy⟩ := toNat_of_continuation? hy
  obtain ⟨he, hz⟩ := toNat_of_continuation? hz
  have hlow : 0xF0 ≤ a.toNat := hlow
  have hhigh : a.toNat < 0xF8 := hhigh
  have hc := toNat_of_scalar? h
  rw [String.utf8EncodeChar, hc, if_neg (by omega), if_neg (by omega), if_neg (by omega)]
  rw [ofNat_eq (b := a) (by omega), ofNat_eq (b := b) (by omega), ofNat_eq (b := d) (by omega),
    ofNat_eq (b := e) (by omega)]

private theorem flatMap_cons_append {c : Char} {cs : List Char} {bytes left rest : List UInt8}
    (hc : String.utf8EncodeChar c = bytes) (hrest : decode rest = (cs, left))
    (ih : (decode rest).1.flatMap String.utf8EncodeChar ++ (decode rest).2 = rest) :
    (c :: cs).flatMap String.utf8EncodeChar ++ left = bytes ++ rest := by
  rw [hrest] at ih
  rw [List.flatMap_cons, hc, List.append_assoc, ih]

/-- Decoding splits bytes into the encoding of characters and a rest. -/
private theorem flatMap_decode_append (bytes : List UInt8) :
    (decode bytes).1.flatMap String.utf8EncodeChar ++ (decode bytes).2 = bytes := by
  fun_induction decode bytes with
  | case1 => rfl
  | case2 a rest c hc cs left hrest ih =>
    exact flatMap_cons_append (utf8EncodeChar_of_char1? hc) hrest ih
  | case3 => rfl
  | case4 a _ b rest c hc cs left hrest ih =>
    exact flatMap_cons_append (utf8EncodeChar_of_char2? hc) hrest ih
  | case5 => rfl
  | case6 a _ b _ d rest c hc cs left hrest ih =>
    exact flatMap_cons_append (utf8EncodeChar_of_char3? hc) hrest ih
  | case7 => rfl
  | case8 a _ b _ d _ e rest c hc cs left hrest ih =>
    exact flatMap_cons_append (utf8EncodeChar_of_char4? hc) hrest ih
  | case9 => rfl

/-- Bytes read as a text exactly if they are its encoding. -/
theorem text_eq_ok_iff {bytes : List UInt8} {s : String} :
    text bytes = .ok s ↔ encode s = bytes := by
  constructor
  · intro h
    have hsplit := flatMap_decode_append bytes
    unfold text at h
    split at h
    · next cs hdecode =>
      cases h
      rw [hdecode, List.append_nil] at hsplit
      rw [encode, String.toList_ofList, hsplit]
    · cases h
  · rintro rfl
    exact text_encode s

end LspProbe.Utf8
