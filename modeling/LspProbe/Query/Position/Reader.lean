import LspProbe.Json.Skip
import LspProbe.Query.Position

/-!
# Reading positions

A position is read straight from the text: an object with its three fields in any order, other
members being stepped over, or a list of the three values. A value of the wrong shape is read far
enough to be named in the complaint.
-/

namespace LspProbe.Position

open Json

/-- What stands next. Lists and objects are named without being entered. -/
def found : Reader Found := fun s =>
  match s with
  | [] => .error (.next .endInValue [])
  | b :: rest =>
    if b = Ascii.lowerN then do
      let rest ← word [0x75, 0x6C, 0x6C] rest
      .ok (.null, rest)
    else if b = Ascii.lowerT then do
      let rest ← word [0x72, 0x75, 0x65] rest
      .ok (.bool true, rest)
    else if b = Ascii.lowerF then do
      let rest ← word [0x61, 0x6C, 0x73, 0x65] rest
      .ok (.bool false, rest)
    else if b = Ascii.minus then do
      let (n, rest) ← number true rest
      .ok (.number n, rest)
    else if (Ascii.digit? b).isSome then do
      let (n, rest) ← number false (b :: rest)
      .ok (.number n, rest)
    else if b = Ascii.quote then do
      let (text, rest) ← string rest
      .ok (.text text, rest)
    else if b = Ascii.openBracket then .ok (.list, b :: rest)
    else if b = Ascii.openBrace then .ok (.object, b :: rest)
    else .error (.next .expectedValue (b :: rest))

/-- The complaint that something else was expected here; broken syntax is reported instead. -/
def mismatch (expected : String) (s : List UInt8) : Fault :=
  match found s with
  | .ok (what, rest) => .here (.wrongType what expected) rest
  | .error fault => fault

/-- A string value. -/
def stringValue : Reader String := fun s =>
  match skipBlanks s with
  | [] => .error (.next .endInValue [])
  | b :: rest =>
    if b = Ascii.quote then string rest else .error (mismatch "a string" (b :: rest))

/-- How a coordinate is called in complaints. -/
def coordinateName : String := "u32"

/-- A number as a coordinate: an integer that fits 32 bits. -/
def coordinateOf (n : Number) (rest : List UInt8) : Except Fault (UInt32 × List UInt8) :=
  match n with
  | .int i =>
    if 0 ≤ i ∧ i < 0x100000000 then .ok (UInt32.ofNat i.toNat, rest)
    else .error (.here (.wrongValue i coordinateName) rest)
  | .float x => .error (.here (.wrongType (.number (.float x)) coordinateName) rest)

/-- A line or character number. -/
def coordinate : Reader UInt32 := fun s =>
  match skipBlanks s with
  | [] => .error (.next .endInValue [])
  | b :: rest =>
    if b = Ascii.minus then do
      let (n, rest) ← number true rest
      coordinateOf n rest
    else if (Ascii.digit? b).isSome then do
      let (n, rest) ← number false (b :: rest)
      coordinateOf n rest
    else .error (mismatch coordinateName (b :: rest))

/-- The fields seen so far. -/
structure Fields where
  uri : Option String := none
  line : Option UInt32 := none
  character : Option UInt32 := none

/-- A field that comes twice, noticed after its key and a closing brace that follows. -/
def repeated (name : String) (s : List UInt8) : Fault :=
  match skipBlanks s with
  | [] => .here (.duplicateField name) []
  | b :: rest =>
    if b = Ascii.closeBrace then .here (.duplicateField name) rest
    else .here (.duplicateField name) (b :: rest)

/-- A field that has not come before. -/
def field {α : Type} (name : String) (seen : Option α) (item : Reader α) : Reader α := fun s =>
  if seen.isSome then .error (repeated name s)
  else do
    let s ← colon s
    item s

/-- A member, after the opening quote of its key. -/
def member (f : Fields) : Reader Fields := fun s => do
  let (key, s) ← string s
  if key = "uri" then
    let (v, s) ← field "uri" f.uri stringValue s
    .ok ({ f with uri := some v }, s)
  else if key = "line" then
    let (v, s) ← field "line" f.line coordinate s
    .ok ({ f with line := some v }, s)
  else if key = "character" then
    let (v, s) ← field "character" f.character coordinate s
    .ok ({ f with character := some v }, s)
  else
    let s ← colon s
    let (_, s) ← skip s
    .ok (f, s)

/-- A position once its object is closed; the first field missing is named. -/
def ofFields (f : Fields) (rest : List UInt8) : Except Fault (Position × List UInt8) :=
  match f.uri, f.line, f.character with
  | some uri, some line, some character => .ok (⟨uri, line, character⟩, rest)
  | none, _, _ => .error (.here (.missingField "uri") rest)
  | _, none, _ => .error (.here (.missingField "line") rest)
  | _, _, none => .error (.here (.missingField "character") rest)

/-- The item of a list after `count` others; a list that ends here is too short. -/
def nth {α : Type} (count : Nat) (item : Reader α) : Reader α := fun s =>
  match skipBlanks s with
  | [] => .error (.next .endInList [])
  | b :: rest =>
    if b = Ascii.closeBracket then
      .error (.here (.wrongLength count "struct Position with 3 elements") rest)
    else if count = 0 then item (b :: rest)
    else if b = Ascii.comma then
      match skipBlanks rest with
      | [] => .error (.next .endInValue [])
      | c :: rest =>
        if c = Ascii.closeBracket then .error (.next .trailingComma (c :: rest))
        else item (c :: rest)
    else .error (.next .expectedListEnd (b :: rest))

/-- The end of a list that has all its items. -/
def closing (s : List UInt8) : Except Fault (List UInt8) :=
  match skipBlanks s with
  | [] => .error (.next .endInList [])
  | b :: rest =>
    if b = Ascii.closeBracket then .ok rest
    else if b = Ascii.comma then
      match skipBlanks rest with
      | [] => .error (.next .trailingCharacters [])
      | c :: rest =>
        if c = Ascii.closeBracket then .error (.next .trailingComma (c :: rest))
        else .error (.next .trailingCharacters (c :: rest))
    else .error (.next .trailingCharacters (b :: rest))

/-- A position. -/
def reader : Reader Position := fun s =>
  match skipBlanks s with
  | [] => .error (.next .endInValue [])
  | b :: rest =>
    if b = Ascii.openBracket then do
      let (uri, s) ← nth 0 stringValue rest
      let (line, s) ← nth 1 coordinate s
      let (character, s) ← nth 2 coordinate s
      let s ← closing s
      .ok (⟨uri, line, character⟩, s)
    else if b = Ascii.openBrace then do
      let (fields, s) ← object .keeping member { } rest
      ofFields fields s
    else .error (mismatch "struct Position" (b :: rest))

/-- The position that a whole text stands for. -/
def parse (input : List UInt8) : Except Fault Position := do
  let (p, rest) ← reader input
  finish rest
  .ok p

end LspProbe.Position
