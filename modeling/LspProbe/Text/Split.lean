/-!
# Splitting texts

The pieces of a text between separators.
-/

namespace LspProbe.Text

/-- The pieces between separators; always at least one. -/
def splitWhere (isSeparator : Char → Bool) : List Char → List (List Char)
  | [] => [[]]
  | c :: rest =>
    if isSeparator c then [] :: splitWhere isSeparator rest
    else
      match splitWhere isSeparator rest with
      | [] => [[c]]
      | piece :: pieces => (c :: piece) :: pieces

theorem splitWhere_ne_nil (isSeparator : Char → Bool) (cs : List Char) :
    splitWhere isSeparator cs ≠ [] := by
  cases cs with
  | nil => simp [splitWhere]
  | cons c rest =>
    rw [splitWhere]
    split
    · simp
    · split <;> simp

/-- A separator ends the piece before it and starts a new one. -/
theorem splitWhere_append (isSeparator : Char → Bool) (c : Char) (h : isSeparator c = true)
    (before after : List Char) :
    splitWhere isSeparator (before ++ c :: after) =
      splitWhere isSeparator before ++ splitWhere isSeparator after := by
  induction before with
  | nil => simp [splitWhere, h]
  | cons d rest ih =>
    rw [List.cons_append, splitWhere, splitWhere, ih]
    split
    · simp
    · cases hs : splitWhere isSeparator rest with
      | nil => exact absurd hs (splitWhere_ne_nil isSeparator rest)
      | cons piece pieces => simp

/-- The pieces between occurrences of a character. -/
def splitAt (sep : Char) (cs : List Char) : List (List Char) := splitWhere (· = sep) cs

end LspProbe.Text
