import LspProbe.Json.Basic

/-!
# Writing JSON

One writer for both layouts. A layout says what stands before an item at a given depth and after
a colon; everything else is the same, so the two texts differ in blanks only.
-/

namespace LspProbe.Json

/-- What is written between tokens. -/
structure Layout where
  gap : Nat → String
  afterColon : String

/-- No blanks at all. -/
def Layout.compact : Layout := ⟨fun _ => "", ""⟩

/-- One item a line, two blanks per level. -/
def Layout.pretty : Layout :=
  ⟨fun depth => "\n" ++ String.ofList (List.replicate (2 * depth) ' '), " "⟩

/-- The lowercase hexadecimal digit of a number below sixteen. -/
def hexChar (n : Nat) : Char := if n < 10 then Char.ofNat (0x30 + n) else Char.ofNat (0x57 + n)

/-- The escape of a character: quotes, backslashes and controls only. -/
def escape (c : Char) : List Char :=
  if c = '"' then ['\\', '"']
  else if c = '\\' then ['\\', '\\']
  else if c = '\x08' then ['\\', 'b']
  else if c = '\t' then ['\\', 't']
  else if c = '\n' then ['\\', 'n']
  else if c = '\x0c' then ['\\', 'f']
  else if c = '\r' then ['\\', 'r']
  else if c.toNat < 0x20 then ['\\', 'u', '0', '0', hexChar (c.toNat / 16), hexChar (c.toNat % 16)]
  else [c]

def quoted (s : String) : String := "\"" ++ String.ofList (s.toList.flatMap escape) ++ "\""

/-- Items between brackets; an empty list of items takes no gaps. -/
def Layout.bracket (l : Layout) (depth : Nat) (opening closing : String) (items : List String) :
    String :=
  if items = [] then opening ++ closing
  else
    opening ++ l.gap (depth + 1) ++ String.intercalate ("," ++ l.gap (depth + 1)) items
      ++ l.gap depth ++ closing

mutual

/-- The text of a value that stands at a depth. -/
def write (l : Layout) (depth : Nat) : Json → String
  | .null => "null"
  | .bool true => "true"
  | .bool false => "false"
  | .num n => n.text
  | .str s => quoted s
  | .arr items => l.bracket depth "[" "]" (writeItems l (depth + 1) items)
  | .obj members => l.bracket depth "\x7b" "\x7d" (writeMembers l (depth + 1) members)

def writeItems (l : Layout) (depth : Nat) : List Json → List String
  | [] => []
  | v :: rest => write l depth v :: writeItems l depth rest

def writeMembers (l : Layout) (depth : Nat) : List (String × Json) → List String
  | [] => []
  | (k, v) :: rest =>
    (quoted k ++ ":" ++ l.afterColon ++ write l depth v) :: writeMembers l depth rest

end

theorem writeItems_eq_map (l : Layout) (depth : Nat) (items : List Json) :
    writeItems l depth items = items.map (write l depth) := by
  induction items with
  | nil => simp [writeItems]
  | cons v rest ih => simp [writeItems, ih]

theorem writeMembers_eq_map (l : Layout) (depth : Nat) (members : List (String × Json)) :
    writeMembers l depth members =
      members.map fun m => quoted m.1 ++ ":" ++ l.afterColon ++ write l depth m.2 := by
  induction members with
  | nil => simp [writeMembers]
  | cons m rest ih => simp [writeMembers, ih]

/-- The text without blanks. -/
def compact (v : Json) : String := write .compact 0 v

/-- The text with one item a line. -/
def pretty (v : Json) : String := write .pretty 0 v

end LspProbe.Json
