import LspProbe.Text.Normal
import LspProbe.Text.Split
import LspProbe.Url.Name.Direction
import LspProbe.Url.Name.Joiner
import LspProbe.Url.Name.Mapping
import LspProbe.Url.Name.Punycode

/-!
# Names of hosts

A name is a row of labels between dots. It travels in ASCII: a label with other characters is
written in Punycode, with a mark in front. One name has one written form, so capital letters and
other variants are replaced first, and what is left has to follow the rules for international
names.
-/

namespace LspProbe.Url.Name

/-- The printable characters that no host may contain. -/
def forbidden : List Char :=
  [' ', '#', '/', ':', '<', '>', '?', '@', '[', '\\', ']', '^', '|']

/-- The characters of ASCII that no name may contain. -/
def isDenied (c : Char) : Bool :=
  c.toNat < 0x20 || c.toNat = 0x7F || c = '%' || forbidden.contains c

/-- What stands before a label in Punycode. -/
def encodedMark : List Char := ['x', 'n', '-', '-']

/-- The longest label that is encoded, and the longest text that is decoded. -/
def maxLabel : Nat := 1000

def maxEncoded : Nat := 2000

/-- The label that a text in Punycode stands for; none if the label should not have been encoded
or could not have been written in another way. -/
def decodeLabel? (cs : List Char) : Option (List Char) := do
  let label ← Punycode.decode? cs
  if cs.getLast? ≠ some '-' ∧ cs.length ≤ maxEncoded ∧ !label.all Punycode.isAscii
      ∧ label.all (fun c => isUsual c && c ≠ '.') ∧ Text.normal label = label then
    some label
  else none

/-- A label as it is meant. -/
def readLabel? (cs : List Char) : Option (List Char) :=
  if encodedMark.isPrefixOf cs then decodeLabel? (cs.drop encodedMark.length) else some cs

/-- Whether a label follows the rules: no mark comes first, joiners are in place, and nothing is
too long or denied. -/
def isSound (label : List Char) : Bool :=
  !((label.head?).map Text.isMark).getD false && joinersInPlace label
    && (label.all Punycode.isAscii || label.length ≤ maxLabel) && !label.any isDenied

/-- The labels of a name as they are meant. -/
def labels? (cs : List Char) : Option (List (List Char)) := do
  let mapped ← map? cs
  let labels ← (Text.splitAt '.' (Text.normal mapped)).mapM readLabel?
  if labels.all isSound && (!labels.any (·.any runsBack) || labels.all keepsDirection) then
    some labels
  else none

/-- A label as it travels. -/
def writeLabel (label : List Char) : List Char :=
  if label.all Punycode.isAscii then label else encodedMark ++ Punycode.encode label

/-- The written form of a name; none if it breaks the rules. -/
def written? (cs : List Char) : Option (List Char) :=
  (labels? cs).map fun labels => List.intercalate ['.'] (labels.map writeLabel)

end LspProbe.Url.Name
