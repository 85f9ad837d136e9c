import LspProbe.Text.Ascii

/-!
# Tables of characters

What a standard says of characters one by one is kept as text, a row a word. A row names a
character by its hexadecimal code, or the first and the last one of a range; `/2` after a range
takes every second character of it. After an equals sign stand numbers, divided by commas.
-/

namespace LspProbe.Text

/-- Characters from `first` to `last`, `step` apart, and the numbers that belong to them. -/
structure Row where
  first : Nat
  last : Nat
  step : Nat
  values : List Nat
  deriving DecidableEq, Repr

abbrev Table := List Row

/-- The pieces of a text between characters, without the empty ones. -/
def words (isSeparator : Char → Bool) (cs : List Char) : List (List Char) :=
  let close (word : List Char) (done : List (List Char)) : List (List Char) :=
    if word.isEmpty then done else word.reverse :: done
  let (word, done) := cs.foldl
    (fun (word, done) c => if isSeparator c then ([], close word done) else (c :: word, done))
    ([], [])
  (close word done).reverse

/-- The value of hexadecimal digits. -/
def hexValue (cs : List Char) : Nat :=
  cs.foldl (fun n c => n * 16 + (Ascii.hexDigit? c.toUInt8).getD 0) 0

namespace Row

/-- The range that a word starts with. -/
def ofRange (cs : List Char) (values : List Nat) : Row :=
  match (words (fun c => c = '-' || c = '/') cs).map hexValue with
  | [first, last] => ⟨first, last, 1, values⟩
  | [first, last, step] => ⟨first, last, step, values⟩
  | codes => ⟨codes.headD 0, codes.headD 0, 1, values⟩

def ofWord (cs : List Char) : Row :=
  let values := (words (· = ',') ((cs.dropWhile (· ≠ '=')).drop 1)).map hexValue
  ofRange (cs.takeWhile (· ≠ '=')) values

/-- Whether a row speaks of a character. -/
def covers (r : Row) (c : Char) : Bool :=
  r.first ≤ c.toNat && c.toNat ≤ r.last && (c.toNat - r.first) % r.step = 0

end Row

namespace Table

/-- The rows of a written table. -/
def ofText (s : String) : Table := (words (fun c => c = ' ' || c = '\n') s.toList).map Row.ofWord

/-- The row that speaks of a character. -/
def row? (t : Table) (c : Char) : Option Row := t.find? (·.covers c)

/-- Whether a table speaks of a character. -/
def covers (t : Table) (c : Char) : Bool := t.any (·.covers c)

/-- The numbers that belong to a character. -/
def values? (t : Table) (c : Char) : Option (List Nat) := (t.row? c).map (·.values)

end Table

end LspProbe.Text
