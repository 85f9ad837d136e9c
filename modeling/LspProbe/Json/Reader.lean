import LspProbe.Json.Basic
import LspProbe.Json.Fault
import LspProbe.Text.Utf8

/-!
# Reading JSON

Readers take bytes from the front and hand back the rest. Lists and objects share one loop each,
whatever is read inside them, and nesting is bounded by a counter. Every loop carries a budget
that starts above the length of its input, so it never runs out.
-/

namespace LspProbe.Json

/-- Takes a value from the front of the bytes. -/
abbrev Reader (α : Type) := List UInt8 → Except Fault (α × List UInt8)

/-- The wording of a reader: what it blames where readers differ. -/
structure Wording where
  /-- A list ends right after a comma. -/
  listEnd : Cause
  /-- An object ends right after a comma. -/
  objectEnd : Cause
  /-- The text ends right after a comma in an object. -/
  objectStop : Cause
  /-- The text ends inside a number. -/
  numberStop : Cause

/-- The wording of a reader that keeps what it reads. -/
def Wording.keeping : Wording := ⟨.trailingComma, .trailingComma, .endInValue, .endInValue⟩

def isBlank (b : UInt8) : Bool := b = 0x20 || b = 0x09 || b = 0x0A || b = 0x0D

/-- The bytes from the first one that is not a blank on. -/
def skipBlanks : List UInt8 → List UInt8
  | [] => []
  | b :: rest => if isBlank b then skipBlanks rest else b :: rest

/-- The remaining letters of `null`, `true` or `false`. -/
def word (letters : List UInt8) (s : List UInt8) : Except Fault (List UInt8) :=
  match letters, s with
  | [], s => .ok s
  | _ :: _, [] => .error (.here .endInValue [])
  | l :: ls, b :: rest => if b = l then word ls rest else .error (.here .expectedIdent rest)

/-- The digits before the point; a leading zero stands alone. -/
def whole (w : Wording) : Reader (List Nat)
  | [] => .error (.here w.numberStop [])
  | b :: rest =>
    match Ascii.digit? b with
    | none => .error (.here .invalidNumber rest)
    | some 0 =>
      if (Ascii.digits rest).1 = [] then .ok ([0], rest) else .error (.next .invalidNumber rest)
    | some d => .ok (d :: (Ascii.digits rest).1, (Ascii.digits rest).2)

/-- The digits after a point, if there is one. -/
def fraction (w : Wording) : Reader (List Nat)
  | [] => .ok ([], [])
  | b :: rest =>
    if b = Ascii.point then
      match Ascii.digits rest with
      | ([], []) => .error (.next w.numberStop [])
      | ([], left) => .error (.next .invalidNumber left)
      | found => .ok found
    else .ok ([], b :: rest)

/-- The sign of an exponent: whether it is negative. -/
def powerSign : List UInt8 → Bool × List UInt8
  | [] => (false, [])
  | b :: rest =>
    if b = Ascii.plus then (false, rest)
    else if b = Ascii.minus then (true, rest)
    else (false, b :: rest)

/-- The exponent, if there is one. -/
def power (w : Wording) : Reader (Option Number.Power)
  | [] => .ok (none, [])
  | b :: rest =>
    if b = Ascii.lowerE ∨ b = Ascii.upperE then
      match Ascii.digits (powerSign rest).2 with
      | ([], []) => .error (.here w.numberStop [])
      | ([], _ :: left) => .error (.here .invalidNumber left)
      | (digits, left) => .ok (some ⟨(powerSign rest).1, digits⟩, left)
    else .ok (none, b :: rest)

/-- A number as written, after its sign. -/
def literal (w : Wording) (negative : Bool) : Reader Number.Literal := fun s => do
  let (wholeDigits, s) ← whole w s
  let (fractionDigits, s) ← fraction w s
  let (exponent, s) ← power w s
  .ok (⟨negative, wholeDigits, fractionDigits, exponent⟩, s)

/-- A number, after its sign. -/
def number (negative : Bool) : Reader Number := fun s => do
  let (written, rest) ← literal .keeping negative s
  match written.value with
  | .ok n => .ok (n, rest)
  | .error unread => .error ⟨.numberOutOfRange, rest.length + unread⟩

/-- The code unit after `\u`. -/
def unit : Reader Nat
  | a :: b :: c :: d :: rest =>
    match Ascii.hexDigit? a, Ascii.hexDigit? b, Ascii.hexDigit? c, Ascii.hexDigit? d with
    | some a, some b, some c, some d => .ok (((a * 16 + b) * 16 + c) * 16 + d, rest)
    | _, _, _, _ => .error (.here .invalidEscape rest)
  | _ => .error (.here .endInString [])

/-- The byte that a one-letter escape stands for. -/
def letterEscape? (b : UInt8) : Option UInt8 :=
  if b = Ascii.quote ∨ b = Ascii.backslash ∨ b = Ascii.slash then some b
  else if b = Ascii.lowerB then some 0x08
  else if b = Ascii.lowerF then some 0x0C
  else if b = Ascii.lowerN then some 0x0A
  else if b = Ascii.lowerR then some 0x0D
  else if b = Ascii.lowerT then some 0x09
  else none

/-- The second half of a surrogate pair whose first half is given. -/
def lowHalf (high : Nat) : Reader Nat
  | [] => .error (.here .endInString [])
  | b :: rest =>
    if b ≠ Ascii.backslash then .error (.here .unfinishedPair rest)
    else
      match rest with
      | [] => .error (.here .endInString [])
      | u :: rest =>
        if u ≠ Ascii.lowerU then .error (.here .unfinishedPair rest)
        else do
          let (low, rest) ← unit rest
          if 0xDC00 ≤ low ∧ low < 0xE000 then
            .ok (0x10000 + (high - 0xD800) * 0x400 + (low - 0xDC00), rest)
          else .error (.here .loneSurrogate rest)

/-- The code point after `\u`, which takes a second escape for a surrogate pair. -/
def codePoint : Reader Nat := fun s => do
  let (first, rest) ← unit s
  if 0xDC00 ≤ first ∧ first < 0xE000 then .error (.here .loneSurrogate rest)
  else if 0xD800 ≤ first ∧ first < 0xDC00 then lowHalf first rest
  else .ok (first, rest)

/-- The bytes of an escape, after the backslash. -/
def escaped : Reader (List UInt8)
  | [] => .error (.here .endInString [])
  | b :: rest =>
    if b = Ascii.lowerU then do
      let (point, rest) ← codePoint rest
      .ok (String.utf8EncodeChar (Char.ofNat point), rest)
    else
      match letterEscape? b with
      | some byte => .ok ([byte], rest)
      | none => .error (.here .invalidEscape rest)

/-- The bytes a string stands for, up to and without the closing quote. -/
def stringBytes : Nat → Reader (List UInt8)
  | 0, s => .error (.here .endInString s)
  | _ + 1, [] => .error (.here .endInString [])
  | budget + 1, b :: rest =>
    if b = Ascii.quote then .ok ([], rest)
    else if b = Ascii.backslash then do
      let (bytes, rest) ← escaped rest
      let (more, rest) ← stringBytes budget rest
      .ok (bytes ++ more, rest)
    else if b < 0x20 then .error (.here .controlCharacter rest)
    else do
      let (more, rest) ← stringBytes budget rest
      .ok (b :: more, rest)

/-- A string, after its opening quote. Ill-formed UTF-8 shows at the closing quote. -/
def string : Reader String := fun s => do
  let (bytes, rest) ← stringBytes (s.length + 1) s
  match Utf8.text bytes with
  | .ok text => .ok (text, rest)
  | .error bad => .error ⟨.invalidCodePoint, rest.length + bad⟩

/-- One item and those that follow it, up to the closing bracket. -/
def elements {α : Type} (w : Wording) (item : Reader α) : Nat → Reader (List α)
  | 0, s => .error (.here .endInList s)
  | budget + 1, s => do
    let (v, s) ← item s
    match skipBlanks s with
    | [] => .error (.next .endInList [])
    | b :: rest =>
      if b = Ascii.closeBracket then .ok ([v], rest)
      else if b = Ascii.comma then
        match skipBlanks rest with
        | [] => .error (.next .endInValue [])
        | c :: rest =>
          if c = Ascii.closeBracket then .error (.next w.listEnd (c :: rest))
          else do
            let (vs, left) ← elements w item budget (c :: rest)
            .ok (v :: vs, left)
      else .error (.next .expectedListEnd (b :: rest))

/-- A list, after its opening bracket. -/
def list {α : Type} (w : Wording) (item : Reader α) : Reader (List α) := fun s =>
  match skipBlanks s with
  | [] => .error (.next .endInList [])
  | b :: rest =>
    if b = Ascii.closeBracket then .ok ([], rest)
    else elements w item (rest.length + 1) (b :: rest)

/-- One member and those that follow it, up to the closing brace. `member` starts after the
opening quote of the key and folds what it reads into a state. -/
def members {σ : Type} (w : Wording) (member : σ → Reader σ) : Nat → σ → Reader σ
  | 0, _, s => .error (.here .endInObject s)
  | _ + 1, _, [] => .error (.next w.objectStop [])
  | budget + 1, state, b :: rest =>
    if b ≠ Ascii.quote then .error (.next .keyNotString (b :: rest))
    else do
      let (state, s) ← member state rest
      match skipBlanks s with
      | [] => .error (.next .endInObject [])
      | b :: rest =>
        if b = Ascii.closeBrace then .ok (state, rest)
        else if b = Ascii.comma then
          match skipBlanks rest with
          | [] => .error (.next w.objectStop [])
          | c :: rest =>
            if c = Ascii.closeBrace then .error (.next w.objectEnd (c :: rest))
            else members w member budget state (c :: rest)
        else .error (.next .expectedObjectEnd (b :: rest))

/-- An object, after its opening brace. -/
def object {σ : Type} (w : Wording) (member : σ → Reader σ) (start : σ) : Reader σ := fun s =>
  match skipBlanks s with
  | [] => .error (.next .endInObject [])
  | b :: rest =>
    if b = Ascii.closeBrace then .ok (start, rest)
    else members w member (rest.length + 1) start (b :: rest)

/-- The colon after a key. -/
def colon (s : List UInt8) : Except Fault (List UInt8) :=
  match skipBlanks s with
  | [] => .error (.next .endInObject [])
  | b :: rest => if b = Ascii.colon then .ok rest else .error (.next .expectedColon (b :: rest))

/-- A member of an object that is kept: a repeated key takes the later value. -/
def keptMember (item : Reader Json) (soFar : Members) : Reader Members := fun s => do
  let (key, s) ← string s
  let s ← colon s
  let (v, s) ← item s
  .ok (Members.insert key v soFar, s)

/-- A value. `nested` reads what lists and objects hold; without it they are refused. -/
def valueWith (nested : Option (Reader Json)) : Reader Json := fun s =>
  match skipBlanks s with
  | [] => .error (.next .endInValue [])
  | b :: rest =>
    if b = Ascii.lowerN then do
      let rest ← word [0x75, 0x6C, 0x6C] rest
      .ok (.null, rest)
    else if b = Ascii.lowerT then do
      let rest ← word [0x72, 0x75, 0x65] rest
      .ok (.bool true, rest)
    else if b = Ascii.lowerF then do
      let rest ← word [0x61, 0x6C, 0x73, 0x65] rest
      .ok (.bool false, rest)
    else if b = Ascii.minus then do
      let (n, rest) ← number true rest
      .ok (.num n, rest)
    else if (Ascii.digit? b).isSome then do
      let (n, rest) ← number false (b :: rest)
      .ok (.num n, rest)
    else if b = Ascii.quote then do
      let (text, rest) ← string rest
      .ok (.str text, rest)
    else if b = Ascii.openBracket then
      match nested with
      | none => .error (.next .nestingLimit (b :: rest))
      | some item => do
        let (items, rest) ← list .keeping item rest
        .ok (.arr items, rest)
    else if b = Ascii.openBrace then
      match nested with
      | none => .error (.next .nestingLimit (b :: rest))
      | some item => do
        let (ms, rest) ← object .keeping (keptMember item) [] rest
        .ok (.obj ms, rest)
    else .error (.next .expectedValue (b :: rest))

/-- A value with at most so many lists and objects inside each other. -/
def value : Nat → Reader Json
  | 0 => valueWith none
  | depth + 1 => valueWith (some (value depth))

/-- How deep lists and objects may nest. -/
def maxNesting : Nat := 127

/-- Only blanks may follow a document. -/
def finish (s : List UInt8) : Except Fault Unit :=
  match skipBlanks s with
  | [] => .ok ()
  | rest => .error (.next .trailingCharacters rest)

/-- The value of a whole text. -/
def parse (input : List UInt8) : Except Fault Json := do
  let (v, rest) ← value maxNesting input
  finish rest
  .ok v

end LspProbe.Json
