/-!
# UTF-8

Texts as bytes and bytes as texts. `decode` splits a byte sequence at its first ill-formed
character, so a reader can say where that character starts.
-/

namespace LspProbe.Utf8

/-- The bytes of a text. -/
def encode (s : String) : List UInt8 := s.toList.flatMap String.utf8EncodeChar

@[simp] theorem encode_empty : encode "" = [] := rfl

@[simp] theorem encode_append (s t : String) : encode (s ++ t) = encode s ++ encode t := by
  simp [encode]

/-- The low six bits of a byte `10xxxxxx`. -/
def continuation? (b : UInt8) : Option Nat :=
  if 0x80 ≤ b ∧ b < 0xC0 then some (b.toNat - 0x80) else none

/-- The character of a code point, unless it is a surrogate or beyond the last one. -/
def scalar? (n : Nat) : Option Char :=
  if n.isValidChar then some (Char.ofNat n) else none

/-- A character of one byte. -/
def char1? (a : UInt8) : Option Char :=
  if a < 0x80 then some (Char.ofNat a.toNat) else none

/-- A character of two bytes. -/
def char2? (a b : UInt8) : Option Char := do
  let x ← continuation? b
  if 0xC2 ≤ a ∧ a < 0xE0 then scalar? ((a.toNat - 0xC0) * 0x40 + x) else none

/-- A character of three bytes, refusing what two bytes can say. -/
def char3? (a b c : UInt8) : Option Char := do
  let x ← continuation? b
  let y ← continuation? c
  let n := (a.toNat - 0xE0) * 0x1000 + x * 0x40 + y
  if 0xE0 ≤ a ∧ a < 0xF0 ∧ 0x800 ≤ n then scalar? n else none

/-- A character of four bytes, refusing what three bytes can say. -/
def char4? (a b c d : UInt8) : Option Char := do
  let x ← continuation? b
  let y ← continuation? c
  let z ← continuation? d
  let n := (a.toNat - 0xF0) * 0x40000 + x * 0x1000 + y * 0x40 + z
  if 0xF0 ≤ a ∧ a < 0xF8 ∧ 0x10000 ≤ n then scalar? n else none

/-- The characters of the longest well-formed start, and the bytes after it. -/
def decode : List UInt8 → List Char × List UInt8
  | [] => ([], [])
  | a :: rest =>
    match char1? a with
    | some c => let (cs, left) := decode rest; (c :: cs, left)
    | none =>
      match rest with
      | [] => ([], [a])
      | b :: rest =>
        match char2? a b with
        | some c => let (cs, left) := decode rest; (c :: cs, left)
        | none =>
          match rest with
          | [] => ([], [a, b])
          | b' :: rest =>
            match char3? a b b' with
            | some c => let (cs, left) := decode rest; (c :: cs, left)
            | none =>
              match rest with
              | [] => ([], [a, b, b'])
              | b'' :: rest =>
                match char4? a b b' b'' with
                | some c => let (cs, left) := decode rest; (c :: cs, left)
                | none => ([], a :: b :: b' :: b'' :: rest)

/-- The text of a well-formed byte sequence; otherwise how many bytes stand from the first
ill-formed character on. -/
def text (bytes : List UInt8) : Except Nat String :=
  match decode bytes with
  | (cs, []) => .ok (String.ofList cs)
  | (_, left) => .error left.length

end LspProbe.Utf8
