/-!
# Punycode

Labels beyond ASCII in letters, digits and hyphens. The ASCII characters come first, then a hyphen
if there are any, and then a row of numbers that say, code by code in rising order, where the other
characters go. Numbers are written in base 36 with the lowest digit first; a digit below the
threshold of its place ends one, and thresholds adapt to the numbers before.
-/

namespace LspProbe.Url.Name.Punycode

def isAscii (c : Char) : Bool := c.toNat < 0x80

/-- The first code that is written as a number. -/
def firstCode : Nat := 0x80

/-- The bias before any number is known. -/
def firstBias : Nat := 72

/-- A digit of base 36: letters, then digits. -/
def digitChar (d : Nat) : Char :=
  if d < 26 then Char.ofNat (0x61 + d) else Char.ofNat (0x30 + (d - 26))

def digitOf? (c : Char) : Option Nat :=
  if c.isLower then some (c.toNat - 0x61)
  else if c.isUpper then some (c.toNat - 0x41)
  else if c.isDigit then some (c.toNat - 0x30 + 26)
  else none

/-- The threshold of a place; places are 36, 72 and so on. -/
def threshold (bias place : Nat) : Nat :=
  if place ≤ bias then 1 else if bias + 26 ≤ place then 26 else place - bias

theorem threshold_bounds (bias place : Nat) :
    1 ≤ threshold bias place ∧ threshold bias place ≤ 26 := by
  unfold threshold
  split
  · omega
  · split <;> omega

/-- Divides by 35 until the number is small; each time raises the bias. -/
def settle (bias n : Nat) : Nat :=
  if 455 < n then settle (bias + 36) (n / 35) else bias + 36 * n / (n + 38)
termination_by n
decreasing_by exact Nat.div_lt_self (by omega) (by omega)

/-- The bias after a number that placed the last of `count` characters. -/
def adapt (isFirst : Bool) (n count : Nat) : Nat :=
  let scaled := if isFirst then n / 700 else n / 2
  settle 0 (scaled + scaled / count)

/-- The digits of a number from a place on. -/
def digits (bias place n : Nat) : List Char :=
  let t := threshold bias place
  if n < t then [digitChar n]
  else digitChar (t + (n - t) % (36 - t)) :: digits bias (place + 36) ((n - t) / (36 - t))
termination_by n
decreasing_by
  have bounds := threshold_bounds bias place
  exact Nat.lt_of_le_of_lt (Nat.div_le_self _ _) (by omega)

/-- What has been written: the text backwards, the number that is due, the bias, and how many
characters have their place. -/
structure Writing where
  text : List Char
  due : Nat
  bias : Nat
  placed : Nat

/-- Passes one character of the label while characters of a code get their places. -/
def Writing.pass (basic code : Nat) (w : Writing) (c : Char) : Writing :=
  if c.toNat < code then { w with due := w.due + 1 }
  else if c.toNat = code then
    { text := (digits w.bias 36 w.due).reverse ++ w.text
      due := 0
      bias := adapt (w.placed = basic) w.due (w.placed + 1)
      placed := w.placed + 1 }
  else w

/-- Adds a number to rising numbers unless it is there. -/
def insertCode (n : Nat) : List Nat → List Nat
  | [] => [n]
  | m :: rest =>
    if n < m then n :: m :: rest else if n = m then m :: rest else m :: insertCode n rest

/-- The codes beyond ASCII of a label, rising. -/
def codes (label : List Char) : List Nat :=
  ((label.filter (!isAscii ·)).map Char.toNat).foldr insertCode []

/-- Gives the characters of each code their places; `next` is the code after the last one. -/
def Writing.place (label : List Char) (basic : Nat) : Nat → List Nat → Writing → Writing
  | _, [], w => w
  | next, code :: rest, w =>
    let w := { w with due := w.due + (code - next) * (w.placed + 1) }
    let w := label.foldl (Writing.pass basic code) w
    Writing.place label basic (code + 1) rest { w with due := w.due + 1 }

/-- A label in Punycode. -/
def encode (label : List Char) : List Char :=
  let basic := label.filter isAscii
  let start : Writing := ⟨[], 0, firstBias, basic.length⟩
  let w := Writing.place label basic.length firstCode (codes label) start
  basic ++ (if basic.isEmpty then [] else ['-']) ++ w.text.reverse

/-- A number from a place on, and what follows it. -/
def number? (bias : Nat) : Nat → Nat → List Char → Option (Nat × List Char)
  | _, _, [] => none
  | place, weight, c :: rest => do
    let d ← digitOf? c
    if d < threshold bias place then some (d * weight, rest)
    else
      let (n, left) ← number? bias (place + 36) (weight * (36 - threshold bias place)) rest
      some (d * weight + n, left)

theorem length_lt_of_number? {bias place weight n : Nat} {cs left : List Char}
    (h : number? bias place weight cs = some (n, left)) : left.length < cs.length := by
  induction cs generalizing place weight n with
  | nil => simp [number?] at h
  | cons c rest ih =>
    rw [number?] at h
    cases hd : digitOf? c with
    | none => simp [hd] at h
    | some d =>
      simp only [hd, Option.bind_eq_bind, Option.bind_some] at h
      split at h
      · simp only [Option.some.injEq, Prod.mk.injEq] at h
        simp [← h.2]
      · cases hn : number? bias (place + 36) (weight * (36 - threshold bias place)) rest with
        | none => simp [hn] at h
        | some r =>
          obtain ⟨m, l⟩ := r
          simp only [hn, Option.bind_some, Option.some.injEq, Prod.mk.injEq] at h
          have shorter := ih (h.2 ▸ hn)
          simp only [List.length_cons]
          omega

/-- Puts characters into a label, as the numbers that are left say. `index` counts the places
passed before, `code` is the last code. -/
def fill (bias code index : Nat) (label cs : List Char) : Option (List Char) :=
  match cs with
  | [] => some label
  | c :: rest =>
    match _read : number? bias 36 1 (c :: rest) with
    | none => none
    | some (n, left) =>
      let count := label.length + 1
      let code := code + (index + n) / count
      if code.isValidChar then
        fill (adapt (index = 0) n count) code ((index + n) % count + 1)
          (label.insertIdx ((index + n) % count) (Char.ofNat code)) left
      else none
termination_by cs.length
decreasing_by
  exact length_lt_of_number? _read

/-- What stands before and after the last hyphen. -/
def splitBasic (cs : List Char) : List Char × List Char :=
  let numbers := (cs.reverse.takeWhile (· ≠ '-')).reverse
  (((cs.reverse.dropWhile (· ≠ '-')).drop 1).reverse, numbers)

/-- The label that Punycode stands for. -/
def decode? (cs : List Char) : Option (List Char) :=
  let (basic, numbers) := splitBasic cs
  if basic.all isAscii then fill firstBias firstCode 0 basic numbers else none

end LspProbe.Url.Name.Punycode
