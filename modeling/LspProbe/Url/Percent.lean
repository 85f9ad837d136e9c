import LspProbe.Text.Ascii

/-!
# Percent encoding

Each part of a URL has its own set of characters that are written as `%XX`. Characters outside
printable ASCII are in all of them; a percent sign is in none.
-/

namespace LspProbe.Url

/-- The uppercase hexadecimal digit of a number below sixteen. -/
def hexDigit (n : Nat) : Char := if n < 10 then Char.ofNat (0x30 + n) else Char.ofNat (0x37 + n)

def encodeByte (b : UInt8) : List Char :=
  ['%', hexDigit (b.toNat / 16), hexDigit (b.toNat % 16)]

/-- The part of a URL that a character stands in. -/
inductive Part where
  | plainPath
  | fragment
  | query
  | specialQuery
  | path
  | userinfo
  deriving DecidableEq, Repr

/-- Controls and everything beyond ASCII. -/
def isControl (c : Char) : Bool := c.toNat < 0x20 || 0x7F ≤ c.toNat

/-- The printable characters that a part encodes. -/
def Part.reserved : Part → List Char
  | .plainPath => []
  | .fragment => [' ', '"', '<', '>', '\x60']
  | .query => [' ', '"', '#', '<', '>']
  | .specialQuery => [' ', '"', '#', '<', '>', '\'']
  | .path => [' ', '"', '#', '<', '>', '?', '\x60', '\x7b', '\x7d']
  | .userinfo =>
    [' ', '"', '#', '<', '>', '?', '\x60', '\x7b', '\x7d', '/', ':', ';', '=', '@', '[', '\\', ']',
      '^', '|']

def Part.encodes (p : Part) (c : Char) : Bool := isControl c || p.reserved.contains c

def Part.encodeChar (p : Part) (c : Char) : List Char :=
  if p.encodes c then (String.utf8EncodeChar c).flatMap encodeByte else [c]

def Part.encode (p : Part) (cs : List Char) : String := String.ofList (cs.flatMap p.encodeChar)

/-- The bytes of a text, with every `%XX` replaced by the byte it stands for. -/
def percentDecode : List UInt8 → List UInt8
  | [] => []
  | [a] => [a]
  | [a, b] => [a, b]
  | a :: b :: c :: rest =>
    if a = 0x25 then
      match Ascii.hexDigit? b, Ascii.hexDigit? c with
      | some high, some low => UInt8.ofNat (high * 16 + low) :: percentDecode rest
      | _, _ => a :: percentDecode (b :: c :: rest)
    else a :: percentDecode (b :: c :: rest)

end LspProbe.Url
