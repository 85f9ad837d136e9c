/-!
# Numerals on the command line

An integer with an optional sign, read digit by digit within a limit.
-/

namespace LspProbe.CommandLine

/-- Why a text is not a number in range. -/
inductive NumeralFlaw where
  | empty
  | invalidDigit
  | tooLarge
  | tooSmall
  | outside (value : Int) (last : Nat)
  deriving DecidableEq, Repr

def NumeralFlaw.message : NumeralFlaw → String
  | .empty => "cannot parse integer from empty string"
  | .invalidDigit => "invalid digit found in string"
  | .tooLarge => "number too large to fit in target type"
  | .tooSmall => "number too small to fit in target type"
  | .outside value last => toString value ++ " is not in 0..=" ++ toString last

/-- The value of a decimal digit. -/
def digitOf? (c : Char) : Option Nat := if c.isDigit then some (c.toNat - 0x30) else none

/-- Adds digits to a value. The first character that is no digit or leaves the limit decides. -/
def digitsFrom (limit : Nat) (excess : NumeralFlaw) : Nat → List Char → Except NumeralFlaw Nat
  | value, [] => .ok value
  | value, c :: rest =>
    match digitOf? c with
    | none => .error .invalidDigit
    | some d =>
      if value * 10 + d ≤ limit then digitsFrom limit excess (value * 10 + d) rest
      else .error excess

/-- At least one digit. -/
def digits (limit : Nat) (excess : NumeralFlaw) : List Char → Except NumeralFlaw Nat
  | [] => .error .invalidDigit
  | cs => digitsFrom limit excess 0 cs

/-- An integer of 64 bits. -/
def signed (s : String) : Except NumeralFlaw Int :=
  match s.toList with
  | [] => .error .empty
  | '-' :: rest => (digits 0x8000000000000000 .tooSmall rest).map fun n => -(n : Int)
  | '+' :: rest => (digits 0x7FFFFFFFFFFFFFFF .tooLarge rest).map Int.ofNat
  | cs => (digits 0x7FFFFFFFFFFFFFFF .tooLarge cs).map Int.ofNat

/-- A natural number of 64 bits; a minus sign is no digit. -/
def unsigned (s : String) : Except NumeralFlaw Nat :=
  match s.toList with
  | [] => .error .empty
  | '+' :: rest => digits 0xFFFFFFFFFFFFFFFF .tooLarge rest
  | cs => digits 0xFFFFFFFFFFFFFFFF .tooLarge cs

/-- A line or character number: an integer that fits 32 bits. -/
def coordinate (s : String) : Except NumeralFlaw UInt32 := do
  let value ← signed s
  if 0 ≤ value ∧ value < 0x100000000 then .ok (UInt32.ofNat value.toNat)
  else .error (.outside value 0xFFFFFFFF)

end LspProbe.CommandLine
