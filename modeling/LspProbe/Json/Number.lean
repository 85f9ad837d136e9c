import LspProbe.Binary64.Shortest

/-!
# JSON numbers

A number is an integer of 64 bits, signed or not, or a double. `Literal` is a number as written;
its value keeps as many digits as fit 64 bits and scales the rest away.
-/

namespace LspProbe

inductive Number where
  | int (value : Int)
  | float (value : Binary64)
  deriving DecidableEq, Repr

namespace Number

def text : Number → String
  | .int i => toString i
  | .float x => x.text

/-- Integers and doubles are never equal; doubles compare by value. -/
def same : Number → Number → Bool
  | .int i, .int j => i == j
  | .float x, .float y => x.same y
  | _, _ => false

/-- The sign and digits after the exponent mark. -/
structure Power where
  negative : Bool
  digits : List Nat
  deriving DecidableEq, Repr

/-- A number as written, digit by digit. -/
structure Literal where
  negative : Bool
  whole : List Nat
  fraction : List Nat
  power : Option Power
  deriving DecidableEq, Repr

/-- Appends digits while the significand stays below `2 ^ 64`; the digits left over follow. -/
def absorb : Nat → List Nat → Nat × List Nat
  | significand, [] => (significand, [])
  | significand, d :: ds =>
    if significand * 10 + d < 0x10000000000000000 then absorb (significand * 10 + d) ds
    else (significand, d :: ds)

/-- The value of exponent digits, or how many follow the one that leaves 31 bits. -/
def powerValue : Nat → List Nat → Except Nat Nat
  | value, [] => .ok value
  | value, d :: ds =>
    if value * 10 + d < 0x80000000 then powerValue (value * 10 + d) ds else .error ds.length

namespace Literal

/-- The kept significand and the power of ten its last digit stands for. Digits of the whole part
that do not fit raise the power; digits of the fraction that do not fit are dropped. -/
def kept (l : Literal) : Nat × Int :=
  let (significand, surplus) := absorb 0 l.whole
  let (significand, dropped) := absorb significand l.fraction
  (significand, (surplus.length : Int) - (l.fraction.length - dropped.length : Nat))

def double (negative : Bool) (significand : Nat) (exponent : Int) : Except Nat Number :=
  match Dyadic.ofDecimal significand exponent with
  | some magnitude => .ok (.float ⟨negative, magnitude⟩)
  | none => .error 0

/-- A literal without fraction and exponent: an integer if 64 bits hold it. A negative zero and
everything outside the range are doubles. -/
def integer (negative : Bool) (whole : List Nat) : Except Nat Number :=
  let (significand, surplus) := absorb 0 whole
  if surplus ≠ [] then double negative significand surplus.length
  else if ¬negative then .ok (.int significand)
  else if 0 < significand ∧ significand ≤ 0x8000000000000000 then .ok (.int (-significand))
  else double negative significand 0

/-- The value of a literal. An error says that it is out of range, noticed with so many digits of
the exponent to go. -/
def value (l : Literal) : Except Nat Number :=
  match l.fraction, l.power with
  | [], none => integer l.negative l.whole
  | _, none => double l.negative l.kept.1 l.kept.2
  | _, some power =>
    match powerValue 0 power.digits with
    | .ok e => double l.negative l.kept.1 (l.kept.2 + if power.negative then -(e : Int) else e)
    | .error unread =>
      if power.negative ∨ l.kept.1 = 0 then .ok (.float (.zero l.negative)) else .error unread

end Literal

end Number

end LspProbe
