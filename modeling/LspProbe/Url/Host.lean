import LspProbe.Text.Utf8
import LspProbe.Url.Name.Basic
import LspProbe.Url.Percent

/-!
# Hosts

A host is a name, an IPv4 or IPv6 address, or, in a URL whose scheme has no rules of its own, any
text. A name whose last label is a number has to be an IPv4 address.
-/

namespace LspProbe.Url

inductive Host where
  | name (text : String)
  | ipv4 (address : Nat)
  | ipv6 (groups : List Nat)
  deriving DecidableEq, Repr

/-- Why a text is not a URL. -/
inductive Flaw where
  | emptyHost
  | invalidName
  | invalidHostCharacter
  | invalidPort
  | invalidIpv4
  | invalidIpv6
  | noScheme
  deriving DecidableEq, Repr

def Flaw.message : Flaw → String
  | .emptyHost => "empty host"
  | .invalidName => "invalid international domain name"
  | .invalidHostCharacter => "invalid domain character"
  | .invalidPort => "invalid port number"
  | .invalidIpv4 => "invalid IPv4 address"
  | .invalidIpv6 => "invalid IPv6 address"
  | .noScheme => "relative URL without a base"

/-- The value of digits in a base up to sixteen. -/
def valueIn? (base : Nat) (cs : List Char) : Option Nat :=
  cs.foldlM
    (fun value c =>
      match Ascii.hexDigit? c.toUInt8 with
      | some d => if c.toNat < 0x80 ∧ d < base then some (value * base + d) else none
      | none => none)
    0

/-- A number of an IPv4 address: hexadecimal after `0x`, octal after `0`, else decimal. -/
def ipv4Number? : List Char → Option Nat
  | [] => none
  | ['0'] => some 0
  | '0' :: 'x' :: digits => valueIn? 16 digits
  | '0' :: 'X' :: digits => valueIn? 16 digits
  | '0' :: digits => valueIn? 8 digits
  | digits => valueIn? 10 digits

/-- The labels of a name; an empty one at the end does not count. -/
def labels (cs : List Char) : List (List Char) :=
  let pieces := Text.splitAt '.' cs
  if pieces.length > 1 ∧ pieces.getLast? = some [] then pieces.dropLast else pieces

/-- Whether the last label is a number, so that the name has to be an IPv4 address. -/
def endsInNumber (cs : List Char) : Bool :=
  match (labels cs).getLast? with
  | none => false
  | some [] => false
  | some label => label.all Char.isDigit || (ipv4Number? label).isSome

/-- The address of up to four numbers; the last one fills the bytes that are left. -/
def ipv4Address? : List Nat → Option Nat
  | [] => none
  | [last] => if last < 0x100000000 then some last else none
  | [a, last] => if a < 256 ∧ last < 0x1000000 then some (a * 0x1000000 + last) else none
  | [a, b, last] =>
    if a < 256 ∧ b < 256 ∧ last < 0x10000 then some (a * 0x1000000 + b * 0x10000 + last)
    else none
  | [a, b, c, last] =>
    if a < 256 ∧ b < 256 ∧ c < 256 ∧ last < 256 then
      some (a * 0x1000000 + b * 0x10000 + c * 0x100 + last)
    else none
  | _ => none

def ipv4? (cs : List Char) : Option Nat := do
  ipv4Address? (← (labels cs).mapM ipv4Number?)

def ipv4Text (address : Nat) : String :=
  String.intercalate "."
    [toString (address / 0x1000000), toString (address / 0x10000 % 256),
      toString (address / 256 % 256), toString (address % 256)]

/-- A number of the IPv4 form inside an IPv6 address: no leading zero, below 256. -/
def tailNumber? (cs : List Char) : Option Nat := do
  let n ← valueIn? 10 cs
  if cs ≠ [] ∧ n < 256 ∧ (cs.length = 1 ∨ cs.head? ≠ some '0') then some n else none

/-- The two groups of an address in IPv4 form. -/
def tailGroups? (cs : List Char) : Option (List Nat) :=
  match (Text.splitAt '.' cs).mapM tailNumber? with
  | some [a, b, c, d] => some [a * 256 + b, c * 256 + d]
  | _ => none

/-- A group of one to four hexadecimal digits. -/
def group? (cs : List Char) : Option Nat :=
  if cs.length = 0 ∨ 4 < cs.length then none else valueIn? 16 cs

/-- Groups between colons; only the last may have IPv4 form. -/
def groups? : List (List Char) → Option (List Nat)
  | [] => some []
  | [last] => if last.contains '.' then tailGroups? last else (group? last).map ([·])
  | piece :: rest => do return (← group? piece) :: (← groups? rest)

/-- The text before and after the first double colon. -/
def splitGap : List Char → Option (List Char × List Char)
  | ':' :: ':' :: rest => some ([], rest)
  | [] => none
  | c :: rest => (splitGap rest).map fun (before, after) => (c :: before, after)

/-- Groups of one side of a double colon, which may be empty. -/
def side? (cs : List Char) : Option (List Nat) :=
  if cs = [] then some [] else groups? (Text.splitAt ':' cs)

def ipv6? (cs : List Char) : Option (List Nat) :=
  match splitGap cs with
  | none => do
    let groups ← groups? (Text.splitAt ':' cs)
    if groups.length = 8 then some groups else none
  | some (before, after) => do
    let left ← if before.contains '.' then none else side? before
    let right ← side? after
    if left.length + right.length < 8 then
      some (left ++ List.replicate (8 - left.length - right.length) 0 ++ right)
    else none

/-- How many zeros stand at the front. -/
def zeroRun (groups : List Nat) : Nat := (groups.takeWhile (· = 0)).length

/-- The start and length of the first longest run of zeros. -/
def longestRun : Nat → List Nat → Nat × Nat
  | start, [] => (start, 0)
  | start, g :: rest =>
    let here := zeroRun (g :: rest)
    let later := longestRun (start + 1) rest
    if later.2 ≤ here then (start, here) else later

def hexGroups (groups : List Nat) : String :=
  String.intercalate ":" (groups.map fun g => String.ofList (Nat.toDigits 16 g))

/-- An IPv6 address in brackets; the longest run of at least two zeros is left out. -/
def ipv6Text (groups : List Nat) : String :=
  let (start, count) := longestRun 0 groups
  if count < 2 then "[" ++ hexGroups groups ++ "]"
  else
    "[" ++ hexGroups (groups.take start) ++ "::" ++ hexGroups (groups.drop (start + count)) ++ "]"

def Host.text : Host → String
  | .name text => text
  | .ipv4 address => ipv4Text address
  | .ipv6 groups => ipv6Text groups

/-- An address between brackets. -/
def bracketed (cs : List Char) : Except Flaw Host :=
  if cs.getLast? = some ']' then
    match ipv6? cs.dropLast with
    | some groups => .ok (.ipv6 groups)
    | none => .error .invalidIpv6
  else .error .invalidIpv6

/-- The host of a URL whose scheme has rules of its own: percent signs are decoded, and a name is
brought to its written form. -/
def Host.parse (cs : List Char) : Except Flaw Host :=
  match cs with
  | '[' :: inside => bracketed inside
  | cs =>
    match Utf8.text (percentDecode (Utf8.encode (String.ofList cs))) with
    | .error _ => .error .invalidName
    | .ok decoded =>
      match Name.written? decoded.toList with
      | none => .error .invalidName
      | some [] => .error .emptyHost
      | some written =>
        if endsInNumber written then
          match ipv4? written with
          | some address => .ok (.ipv4 address)
          | none => .error .invalidIpv4
        else .ok (.name (String.ofList written))

/-- The host of a URL whose scheme has no rules of its own. -/
def Host.parsePlain (cs : List Char) : Except Flaw Host :=
  match cs with
  | '[' :: inside => bracketed inside
  | cs =>
    if cs.any (fun c => c = '\x00' || Name.forbidden.contains c) then .error .invalidHostCharacter
    else .ok (.name (Part.plainPath.encode cs))

end LspProbe.Url
