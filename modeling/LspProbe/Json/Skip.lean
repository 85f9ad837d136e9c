import LspProbe.Json.Reader

/-!
# Skipping JSON

A value nobody asks for is only stepped over. The grammar is that of the reader, but nothing is
worked out: no nesting limit, no range of numbers, no pairing of surrogates, no UTF-8.
-/

namespace LspProbe.Json

/-- The wording of a reader that steps over what it reads. -/
def Wording.skipping : Wording := ⟨.expectedValue, .keyNotString, .endInObject, .invalidNumber⟩

/-- Steps over an escape, after the backslash. -/
def skipEscape : List UInt8 → Except Fault (List UInt8)
  | [] => .error (.here .endInString [])
  | b :: rest =>
    if b = Ascii.lowerU then do
      let (_, rest) ← unit rest
      .ok rest
    else if (letterEscape? b).isSome then .ok rest
    else .error (.here .invalidEscape rest)

/-- Steps over a string, after its opening quote. -/
def skipString : Nat → List UInt8 → Except Fault (List UInt8)
  | 0, s => .error (.here .endInString s)
  | _ + 1, [] => .error (.here .endInString [])
  | budget + 1, b :: rest =>
    if b = Ascii.quote then .ok rest
    else if b = Ascii.backslash then do
      let rest ← skipEscape rest
      skipString budget rest
    else if b < 0x20 then .error (.here .controlCharacter (b :: rest))
    else skipString budget rest

/-- Steps over a member, after the opening quote of its key. -/
def skipMember (item : Reader Unit) (_ : Unit) : Reader Unit := fun s => do
  let s ← skipString (s.length + 1) s
  let s ← colon s
  item s

/-- Steps over a value, with at most so many lists and objects inside each other. -/
def skipWithin : Nat → Reader Unit
  | 0, s => .error (.next .nestingLimit s)
  | depth + 1, s =>
    match skipBlanks s with
    | [] => .error (.next .endInValue [])
    | b :: rest =>
      if b = Ascii.lowerN then do
        let rest ← word [0x75, 0x6C, 0x6C] rest
        .ok ((), rest)
      else if b = Ascii.lowerT then do
        let rest ← word [0x72, 0x75, 0x65] rest
        .ok ((), rest)
      else if b = Ascii.lowerF then do
        let rest ← word [0x61, 0x6C, 0x73, 0x65] rest
        .ok ((), rest)
      else if b = Ascii.minus then do
        let (_, rest) ← literal .skipping true rest
        .ok ((), rest)
      else if (Ascii.digit? b).isSome then do
        let (_, rest) ← literal .skipping false (b :: rest)
        .ok ((), rest)
      else if b = Ascii.quote then do
        let rest ← skipString (rest.length + 1) rest
        .ok ((), rest)
      else if b = Ascii.openBracket then do
        let (_, rest) ← list .skipping (skipWithin depth) rest
        .ok ((), rest)
      else if b = Ascii.openBrace then
        object .skipping (skipMember (skipWithin depth)) () rest
      else .error (.next .expectedValue (b :: rest))

/-- Steps over a value. A text cannot nest deeper than it is long. -/
def skip : Reader Unit := fun s => skipWithin (s.length + 1) s

end LspProbe.Json
