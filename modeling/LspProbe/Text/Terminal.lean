/-!
# Control sequences of terminals

What a text shows where no terminal reads it: escape sequences and controls are left out, line
ends and tabs stay. A sequence starts with an escape and runs on until a character that ends its
kind. A line end or tab inside one is shown, and so is what follows it.
-/

namespace LspProbe.Text.Terminal

/-- Where in a sequence a reader is. -/
inductive State where
  | ground
  | escape
  | escapeIntermediate
  | csiEntry
  | csiParameter
  | csiIntermediate
  | csiIgnore
  | dcsEntry
  | dcsParameter
  | dcsIntermediate
  | dcsIgnore
  | dcsString
  | oscString
  | otherString
  deriving DecidableEq, Repr

def isWithin (first last : Nat) (c : Char) : Bool := first ≤ c.toNat && c.toNat ≤ last

/-- Blanks that end lines or stand between columns. -/
def isLayout (c : Char) : Bool := c = '\t' || c = '\n' || c = '\r' || c = '\x0c'

/-- Whether the encoding of a character has the byte that ends strings. -/
def hasEndByte (c : Char) : Bool := (String.utf8EncodeChar c).contains 0x9C

namespace State

/-- Where a sequence goes after an escape and one more character. -/
def afterEscape (c : Char) : State :=
  if isWithin 0x20 0x2F c then .escapeIntermediate
  else if c = '[' then .csiEntry
  else if c = ']' then .oscString
  else if c = 'P' then .dcsEntry
  else if c = 'X' ∨ c = '^' ∨ c = '_' then .otherString
  else if isWithin 0x30 0x7E c then .ground
  else .escape

/-- Where a control sequence goes. Parameters may start with a private mark, which is not allowed
later. -/
def afterCsi (s : State) (c : Char) : State :=
  if isWithin 0x40 0x7E c then .ground
  else if s = .csiIgnore then .csiIgnore
  else if isWithin 0x20 0x2F c then .csiIntermediate
  else if isWithin 0x30 0x3F c then
    if s = .csiEntry then .csiParameter
    else if s = .csiParameter ∧ isWithin 0x30 0x3B c then .csiParameter
    else .csiIgnore
  else s

/-- Where the start of a device string goes. -/
def afterDcs (s : State) (c : Char) : State :=
  if isWithin 0x40 0x7E c then .dcsString
  else if isWithin 0x20 0x2F c then .dcsIntermediate
  else if isWithin 0x30 0x3F c then
    if s = .dcsEntry then .dcsParameter
    else if s = .dcsParameter ∧ isWithin 0x30 0x3B c then .dcsParameter
    else .dcsIgnore
  else s

/-- Where a sequence goes after a character. An escape starts a new one, and two controls cancel
every one. -/
def next (s : State) (c : Char) : State :=
  if c = '\x1b' then .escape
  else if c = '\x18' ∨ c = '\x1a' then .ground
  else
    match s with
    | .ground => .ground
    | .escape => afterEscape c
    | .escapeIntermediate => if isWithin 0x30 0x7E c then .ground else s
    | .csiEntry | .csiParameter | .csiIntermediate | .csiIgnore => afterCsi s c
    | .dcsEntry | .dcsParameter | .dcsIntermediate => afterDcs s c
    | .dcsIgnore | .dcsString | .otherString => if hasEndByte c then .ground else s
    | .oscString => if c = '\x07' then .ground else s

/-- Whether a character is shown although it stands in a sequence. -/
def shows (s : State) (c : Char) : Bool :=
  match s with
  | .ground => isLayout c || (0x20 ≤ c.toNat && c.toNat ≠ 0x7F)
  | .escape | .escapeIntermediate | .csiEntry | .csiParameter | .csiIntermediate | .csiIgnore =>
    isLayout c
  | _ => false

end State

/-- A reader: whether it shows what comes, and the sequence it is in or was in last. -/
structure Reader where
  isShowing : Bool
  state : State
  deriving DecidableEq, Repr

/-- Goes past a character that may be part of a sequence. -/
def Reader.skip (r : Reader) (c : Char) : Reader × Bool :=
  if r.state.shows c then (⟨true, if c.toNat < 0x80 then r.state else .ground⟩, true)
  else (⟨false, r.state.next c⟩, false)

/-- Goes past a character, and says whether it is shown. -/
def Reader.step (r : Reader) (c : Char) : Reader × Bool :=
  if r.isShowing && State.ground.shows c then
    (⟨true, if c.toNat < 0x80 then r.state else .ground⟩, true)
  else r.skip c

def visibleFrom (r : Reader) : List Char → List Char
  | [] => []
  | c :: rest =>
    let (r, isShown) := r.step c
    if isShown then c :: visibleFrom r rest else visibleFrom r rest

/-- What a text shows. -/
def visible (s : String) : String := String.ofList (visibleFrom ⟨false, .ground⟩ s.toList)

end LspProbe.Text.Terminal
