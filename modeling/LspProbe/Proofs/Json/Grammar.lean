import LspProbe.Json.Reader

/-!
# The grammar of JSON texts

`IsText n v s` says that the bytes `s` are a text of the value `v` in which at most `n` lists and
objects stand inside each other. The grammar knows nothing of readers and writers: it takes every
blank, escape and spelling of a number that JSON allows. `IsTextBy` is the same grammar with the
rule for numbers left open.
-/

namespace LspProbe.Json

/-- What may stand between tokens. -/
def Blanks (s : List UInt8) : Prop := ∀ b ∈ s, isBlank b = true

def digitByte (d : Nat) : UInt8 := UInt8.ofNat (0x30 + d)

def digitBytes (ds : List Nat) : List UInt8 := ds.map digitByte

structure IsDigits (ds : List Nat) : Prop where
  ne_nil : ds ≠ []
  lt_ten : ∀ d ∈ ds, d < 10

/-- The digits before the point: a zero stands alone. -/
structure IsWhole (ds : List Nat) : Prop extends IsDigits ds where
  zero_alone : ds.head? = some 0 → ds = [0]

inductive IsFraction : List Nat → List UInt8 → Prop
  | absent : IsFraction [] []
  | point {ds : List Nat} (h : IsDigits ds) : IsFraction ds (Ascii.point :: digitBytes ds)

inductive IsSign : Bool → List UInt8 → Prop
  | absent : IsSign false []
  | plus : IsSign false [Ascii.plus]
  | minus : IsSign true [Ascii.minus]

inductive IsPower : Option Number.Power → List UInt8 → Prop
  | absent : IsPower none []
  | mark {e : UInt8} {negative : Bool} {sign : List UInt8} {ds : List Nat}
      (he : e = Ascii.lowerE ∨ e = Ascii.upperE) (hsign : IsSign negative sign)
      (hds : IsDigits ds) : IsPower (some ⟨negative, ds⟩) (e :: (sign ++ digitBytes ds))

/-- A number as written, after its sign. -/
inductive IsLiteral : Number.Literal → List UInt8 → Prop
  | mk {l : Number.Literal} {f p : List UInt8} (hwhole : IsWhole l.whole)
      (hfraction : IsFraction l.fraction f) (hpower : IsPower l.power p) :
      IsLiteral l (digitBytes l.whole ++ (f ++ p))

theorem isLiteral_whole (negative : Bool) {ds : List Nat} (h : IsWhole ds) :
    IsLiteral ⟨negative, ds, [], none⟩ (digitBytes ds) := by
  have hl : IsLiteral ⟨negative, ds, [], none⟩ (digitBytes ds ++ ([] ++ [])) :=
    .mk h .absent .absent
  simpa using hl

/-- Escapes of one letter. -/
inductive IsEscape : UInt8 → Char → Prop
  | quote : IsEscape Ascii.quote '"'
  | backslash : IsEscape Ascii.backslash '\\'
  | slash : IsEscape Ascii.slash '/'
  | backspace : IsEscape Ascii.lowerB '\x08'
  | formFeed : IsEscape Ascii.lowerF '\x0c'
  | lineFeed : IsEscape Ascii.lowerN '\n'
  | carriageReturn : IsEscape Ascii.lowerR '\r'
  | tab : IsEscape Ascii.lowerT '\t'

/-- Four hexadecimal digits. -/
inductive IsUnit : Nat → List UInt8 → Prop
  | mk {a b c d : UInt8} {i j k l : Nat} (ha : Ascii.hexDigit? a = some i)
      (hb : Ascii.hexDigit? b = some j) (hc : Ascii.hexDigit? c = some k)
      (hd : Ascii.hexDigit? d = some l) :
      IsUnit (((i * 16 + j) * 16 + k) * 16 + l) [a, b, c, d]

/-- The characters between the quotes of a string. -/
inductive IsContent : List Char → List UInt8 → Prop
  | nil : IsContent [] []
  | plain {c : Char} {cs : List Char} {s : List UInt8} (hquote : c ≠ '"') (hbackslash : c ≠ '\\')
      (hcontrol : 0x20 ≤ c.toNat) (h : IsContent cs s) :
      IsContent (c :: cs) (String.utf8EncodeChar c ++ s)
  | letter {b : UInt8} {c : Char} {cs : List Char} {s : List UInt8} (hb : IsEscape b c)
      (h : IsContent cs s) : IsContent (c :: cs) (Ascii.backslash :: b :: s)
  | unit {u : Nat} {t : List UInt8} {cs : List Char} {s : List UInt8} (hu : IsUnit u t)
      (hsurrogate : ¬(0xD800 ≤ u ∧ u < 0xE000)) (h : IsContent cs s) :
      IsContent (Char.ofNat u :: cs) (Ascii.backslash :: Ascii.lowerU :: (t ++ s))
  | pair {high low : Nat} {t t' : List UInt8} {cs : List Char} {s : List UInt8}
      (hhigh : IsUnit high t) (hhigh' : 0xD800 ≤ high ∧ high < 0xDC00) (hlow : IsUnit low t')
      (hlow' : 0xDC00 ≤ low ∧ low < 0xE000) (h : IsContent cs s) :
      IsContent (Char.ofNat (0x10000 + (high - 0xD800) * 0x400 + (low - 0xDC00)) :: cs)
        (Ascii.backslash :: Ascii.lowerU ::
          (t ++ (Ascii.backslash :: Ascii.lowerU :: (t' ++ s))))

inductive IsQuoted : String → List UInt8 → Prop
  | mk {text : String} {s : List UInt8} (h : IsContent text.toList s) :
      IsQuoted text (Ascii.quote :: (s ++ [Ascii.quote]))

/-- A text with blanks around it. -/
inductive Padded (P : List UInt8 → Prop) : List UInt8 → Prop
  | mk {before s after : List UInt8} (hbefore : Blanks before) (h : P s) (hafter : Blanks after) :
      Padded P (before ++ (s ++ after))

/-- One or more things with commas between them. -/
inductive Separated {α : Type} (P : α → List UInt8 → Prop) : List α → List UInt8 → Prop
  | last {a : α} {s : List UInt8} (h : P a s) : Separated P [a] s
  | more {a : α} {as : List α} {s t : List UInt8} (h : P a s) (hrest : Separated P as t) :
      Separated P (a :: as) (s ++ Ascii.comma :: t)

/-- A key and a value with a colon between them. -/
inductive IsMember (P : Json → List UInt8 → Prop) : String × Json → List UInt8 → Prop
  | mk {key : String} {v : Json} {s t : List UInt8} (hkey : Padded (IsQuoted key) s)
      (hvalue : Padded (P v) t) : IsMember P (key, v) (s ++ Ascii.colon :: t)

inductive IsScalar : Json → List UInt8 → Prop
  | null : IsScalar .null [0x6E, 0x75, 0x6C, 0x6C]
  | true : IsScalar (.bool true) [0x74, 0x72, 0x75, 0x65]
  | false : IsScalar (.bool false) [0x66, 0x61, 0x6C, 0x73, 0x65]
  | positive {l : Number.Literal} {n : Number} {s : List UInt8} (hl : IsLiteral l s)
      (hsign : l.negative = false) (hvalue : l.value = .ok n) : IsScalar (.num n) s
  | negative {l : Number.Literal} {n : Number} {s : List UInt8} (hl : IsLiteral l s)
      (hsign : l.negative = true) (hvalue : l.value = .ok n) :
      IsScalar (.num n) (Ascii.minus :: s)
  | str {text : String} {s : List UInt8} (h : IsQuoted text s) : IsScalar (.str text) s

/-- The members of an object in the order in which they are written: the last of equal keys
counts. -/
def Members.ofList (members : Members) : Members :=
  members.foldl (fun soFar m => Members.insert m.1 m.2 soFar) []

/-- A list or an object whose values are texts by `P`. -/
inductive IsContainer (P : Json → List UInt8 → Prop) : Json → List UInt8 → Prop
  | emptyList {s : List UInt8} (h : Blanks s) :
      IsContainer P (.arr []) (Ascii.openBracket :: (s ++ [Ascii.closeBracket]))
  | list {items : List Json} {s : List UInt8} (h : Separated (fun v => Padded (P v)) items s) :
      IsContainer P (.arr items) (Ascii.openBracket :: (s ++ [Ascii.closeBracket]))
  | emptyObject {s : List UInt8} (h : Blanks s) :
      IsContainer P (.obj []) (Ascii.openBrace :: (s ++ [Ascii.closeBrace]))
  | object {members : Members} {s : List UInt8} (h : Separated (IsMember P) members s) :
      IsContainer P (.obj (Members.ofList members))
        (Ascii.openBrace :: (s ++ [Ascii.closeBrace]))

/-- A text of a value in which at most so many lists and objects nest. -/
def IsText : Nat → Json → List UInt8 → Prop
  | 0, v, s => IsScalar v s
  | n + 1, v, s => IsScalar v s ∨ IsContainer (IsText n) v s

inductive IsScalarBy (N : Number → List UInt8 → Prop) : Json → List UInt8 → Prop
  | null : IsScalarBy N .null [0x6E, 0x75, 0x6C, 0x6C]
  | true : IsScalarBy N (.bool true) [0x74, 0x72, 0x75, 0x65]
  | false : IsScalarBy N (.bool false) [0x66, 0x61, 0x6C, 0x73, 0x65]
  | num {n : Number} {s : List UInt8} (h : N n s) : IsScalarBy N (.num n) s
  | str {text : String} {s : List UInt8} (h : IsQuoted text s) : IsScalarBy N (.str text) s

/-- A text of a value in which at most so many lists and objects nest, and whose numbers are texts
by `N`. -/
def IsTextBy (N : Number → List UInt8 → Prop) : Nat → Json → List UInt8 → Prop
  | 0, v, s => IsScalarBy N v s
  | n + 1, v, s => IsScalarBy N v s ∨ IsContainer (IsTextBy N n) v s

section Mono

variable {P Q : Json → List UInt8 → Prop} (hPQ : ∀ v s, P v s → Q v s)

include hPQ

theorem Padded.mono {v : Json} {s : List UInt8} (h : Padded (P v) s) : Padded (Q v) s := by
  cases h with
  | mk hbefore h hafter => exact .mk hbefore (hPQ _ _ h) hafter

theorem IsMember.mono {m : String × Json} {s : List UInt8} (h : IsMember P m s) :
    IsMember Q m s := by
  cases h with
  | mk hkey hvalue => exact .mk hkey (hvalue.mono hPQ)

omit hPQ in
theorem Separated.mono {α : Type} {A B : α → List UInt8 → Prop} (hAB : ∀ a s, A a s → B a s)
    {as : List α} {s : List UInt8} (h : Separated A as s) : Separated B as s := by
  induction h with
  | last h => exact .last (hAB _ _ h)
  | more h _ ih => exact .more (hAB _ _ h) ih

theorem IsContainer.mono {v : Json} {s : List UInt8} (h : IsContainer P v s) :
    IsContainer Q v s := by
  cases h with
  | emptyList h => exact .emptyList h
  | list h => exact .list (h.mono fun v s hv => hv.mono hPQ)
  | emptyObject h => exact .emptyObject h
  | object h => exact .object (h.mono fun m s hm => hm.mono hPQ)

end Mono

theorem IsTextBy.isText {N : Number → List UInt8 → Prop}
    (hN : ∀ n s, N n s → IsScalar (.num n) s) {n : Nat} {v : Json} {s : List UInt8}
    (h : IsTextBy N n v s) : IsText n v s := by
  have hscalar {v : Json} {s : List UInt8} (h : IsScalarBy N v s) : IsScalar v s := by
    cases h with
    | null => exact .null
    | true => exact .true
    | false => exact .false
    | num h => exact hN _ _ h
    | str h => exact .str h
  induction n generalizing v s with
  | zero => exact hscalar h
  | succ n ih =>
    rcases h with h | h
    · exact .inl (hscalar h)
    · exact .inr (h.mono fun v s hv => ih hv)

theorem IsText.isTextBy {N : Number → List UInt8 → Prop}
    (hN : ∀ n s, IsScalar (.num n) s → N n s) {n : Nat} {v : Json} {s : List UInt8}
    (h : IsText n v s) : IsTextBy N n v s := by
  have hscalar {v : Json} {s : List UInt8} (h : IsScalar v s) : IsScalarBy N v s := by
    cases h with
    | null => exact .null
    | true => exact .true
    | false => exact .false
    | positive hl hsign hvalue => exact .num (hN _ _ (.positive hl hsign hvalue))
    | negative hl hsign hvalue => exact .num (hN _ _ (.negative hl hsign hvalue))
    | str h => exact .str h
  induction n generalizing v s with
  | zero => exact hscalar h
  | succ n ih =>
    rcases h with h | h
    · exact .inl (hscalar h)
    · exact .inr (h.mono fun v s hv => ih hv)

end LspProbe.Json
