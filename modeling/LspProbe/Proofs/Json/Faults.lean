import LspProbe.Json.Reader
import LspProbe.Proofs.Characters
import LspProbe.Proofs.Steps

/-!
# What readers blame

A reader that takes values as they come blames nothing but the syntax of a text, so its messages
quote nothing of that text and are printable.
-/

namespace LspProbe.Json

def Cause.isSyntactic : Cause → Bool
  | .wrongType _ _ | .wrongValue _ _ | .wrongLength _ _ | .duplicateField _ | .missingField _ =>
    false
  | _ => true

/-- If a step fails, it blames the syntax. -/
def Syntactic {α : Type} (r : Except Fault α) : Prop :=
  ∀ f, r = .error f → f.cause.isSyntactic = true

section

variable {α β : Type}

@[simp] theorem syntactic_ok (a : α) : Syntactic (.ok a) := nofun

@[simp] theorem syntactic_error (f : Fault) :
    Syntactic (.error f : Except Fault α) ↔ f.cause.isSyntactic = true := by
  constructor
  · intro h
    exact h f rfl
  · rintro h _ ⟨⟩
    exact h

theorem Syntactic.bind {r : Except Fault α} (h : Syntactic r) {next : α → Except Fault β}
    (hnext : ∀ a, Syntactic (next a)) : Syntactic (r >>= next) := by
  cases r with
  | error f => exact (syntactic_error f).mpr (h f rfl)
  | ok a => exact hnext a

end

theorem word_syntactic (letters s : List UInt8) : Syntactic (word letters s) := by
  fun_induction word letters s with
  | case1 => exact syntactic_ok _
  | case2 => exact (syntactic_error _).mpr rfl
  | case3 l ls rest ih => exact ih
  | case4 => exact (syntactic_error _).mpr rfl

theorem whole_syntactic (s : List UInt8) : Syntactic (whole .keeping s) := by
  unfold whole
  split
  · exact (syntactic_error _).mpr rfl
  · split
    · exact (syntactic_error _).mpr rfl
    · split
      · exact syntactic_ok _
      · exact (syntactic_error _).mpr rfl
    · exact syntactic_ok _

theorem fraction_syntactic (s : List UInt8) : Syntactic (fraction .keeping s) := by
  unfold fraction
  split
  · exact syntactic_ok _
  · split
    · split
      · exact (syntactic_error _).mpr rfl
      · exact (syntactic_error _).mpr rfl
      · exact syntactic_ok _
    · exact syntactic_ok _

theorem power_syntactic (s : List UInt8) : Syntactic (power .keeping s) := by
  unfold power
  split
  · exact syntactic_ok _
  · split
    · split
      · exact (syntactic_error _).mpr rfl
      · exact (syntactic_error _).mpr rfl
      · exact syntactic_ok _
    · exact syntactic_ok _

theorem number_syntactic (negative : Bool) (s : List UInt8) : Syntactic (number negative s) := by
  refine Syntactic.bind ?_ fun ⟨written, rest⟩ => ?_
  · refine (whole_syntactic s).bind fun ⟨ds, s⟩ => ?_
    refine (fraction_syntactic s).bind fun ⟨fs, s⟩ => ?_
    refine (power_syntactic s).bind fun ⟨p, s⟩ => ?_
    exact syntactic_ok _
  · dsimp only
    split
    · exact syntactic_ok _
    · exact (syntactic_error _).mpr rfl

theorem unit_syntactic (s : List UInt8) : Syntactic (unit s) := by
  unfold unit
  split
  · split
    · exact syntactic_ok _
    · exact (syntactic_error _).mpr rfl
  · exact (syntactic_error _).mpr rfl

theorem lowHalf_syntactic (high : Nat) (s : List UInt8) : Syntactic (lowHalf high s) := by
  unfold lowHalf
  split
  · exact (syntactic_error _).mpr rfl
  · split
    · exact (syntactic_error _).mpr rfl
    · split
      · exact (syntactic_error _).mpr rfl
      · split
        · exact (syntactic_error _).mpr rfl
        · refine (unit_syntactic _).bind fun ⟨low, rest⟩ => ?_
          dsimp only
          split
          · exact syntactic_ok _
          · exact (syntactic_error _).mpr rfl

theorem codePoint_syntactic (s : List UInt8) : Syntactic (codePoint s) := by
  refine (unit_syntactic s).bind fun ⟨first, rest⟩ => ?_
  dsimp only
  split
  · exact (syntactic_error _).mpr rfl
  · split
    · exact lowHalf_syntactic _ _
    · exact syntactic_ok _

theorem escaped_syntactic (s : List UInt8) : Syntactic (escaped s) := by
  unfold escaped
  split
  · exact (syntactic_error _).mpr rfl
  · split
    · exact (codePoint_syntactic _).bind fun _ => syntactic_ok _
    · split
      · exact syntactic_ok _
      · exact (syntactic_error _).mpr rfl

theorem stringBytes_syntactic (budget : Nat) (s : List UInt8) :
    Syntactic (stringBytes budget s) := by
  induction budget generalizing s with
  | zero => exact (syntactic_error _).mpr rfl
  | succ budget ih =>
    cases s with
    | nil => exact (syntactic_error _).mpr rfl
    | cons b s =>
      rw [stringBytes]
      split
      · exact syntactic_ok _
      · split
        · refine (escaped_syntactic s).bind fun ⟨bytes, rest⟩ => ?_
          exact (ih rest).bind fun _ => syntactic_ok _
        · split
          · exact (syntactic_error _).mpr rfl
          · exact (ih s).bind fun _ => syntactic_ok _

theorem string_syntactic (s : List UInt8) : Syntactic (string s) := by
  refine (stringBytes_syntactic _ s).bind fun ⟨bytes, rest⟩ => ?_
  dsimp only
  split
  · exact syntactic_ok _
  · exact (syntactic_error _).mpr rfl

section

variable {item : Reader Json} (hitem : ∀ s, Syntactic (item s))

include hitem

theorem elements_syntactic (budget : Nat) (s : List UInt8) :
    Syntactic (elements .keeping item budget s) := by
  induction budget generalizing s with
  | zero => exact (syntactic_error _).mpr rfl
  | succ budget ih =>
    refine (hitem s).bind fun ⟨v, s⟩ => ?_
    dsimp only
    split
    · exact (syntactic_error _).mpr rfl
    · split
      · exact syntactic_ok _
      · split
        · split
          · exact (syntactic_error _).mpr rfl
          · split
            · exact (syntactic_error _).mpr rfl
            · exact (ih _).bind fun _ => syntactic_ok _
        · exact (syntactic_error _).mpr rfl

theorem list_syntactic (s : List UInt8) : Syntactic (list .keeping item s) := by
  unfold list
  split
  · exact (syntactic_error _).mpr rfl
  · split
    · exact syntactic_ok _
    · exact elements_syntactic hitem _ _

theorem keptMember_syntactic (soFar : Members) (s : List UInt8) :
    Syntactic (keptMember item soFar s) := by
  refine (string_syntactic s).bind fun ⟨key, s⟩ => ?_
  refine Syntactic.bind ?_ fun s => (hitem s).bind fun _ => syntactic_ok _
  unfold colon
  split
  · exact (syntactic_error _).mpr rfl
  · split
    · exact syntactic_ok _
    · exact (syntactic_error _).mpr rfl

theorem members_syntactic (budget : Nat) (soFar : Members) (s : List UInt8) :
    Syntactic (members .keeping (keptMember item) budget soFar s) := by
  induction budget generalizing soFar s with
  | zero => exact (syntactic_error _).mpr rfl
  | succ budget ih =>
    cases s with
    | nil => exact (syntactic_error _).mpr rfl
    | cons b s =>
      rw [members]
      split
      · exact (syntactic_error _).mpr rfl
      · refine (keptMember_syntactic hitem soFar s).bind fun ⟨state, s⟩ => ?_
        dsimp only
        split
        · exact (syntactic_error _).mpr rfl
        · split
          · exact syntactic_ok _
          · split
            · split
              · exact (syntactic_error _).mpr rfl
              · split
                · exact (syntactic_error _).mpr rfl
                · exact ih _ _
            · exact (syntactic_error _).mpr rfl

theorem object_syntactic (s : List UInt8) :
    Syntactic (object .keeping (keptMember item) [] s) := by
  unfold object
  split
  · exact (syntactic_error _).mpr rfl
  · split
    · exact syntactic_ok _
    · exact members_syntactic hitem _ _ _

end

theorem valueWith_syntactic {nested : Option (Reader Json)}
    (hnested : ∀ item ∈ nested, ∀ s, Syntactic (item s)) (s : List UInt8) :
    Syntactic (valueWith nested s) := by
  unfold valueWith
  split
  · exact (syntactic_error _).mpr rfl
  · iterate 3
      split
      · exact (word_syntactic _ _).bind fun _ => syntactic_ok _
    iterate 2
      split
      · exact (number_syntactic _ _).bind fun _ => syntactic_ok _
    split
    · exact (string_syntactic _).bind fun _ => syntactic_ok _
    · split
      · cases nested with
        | none => exact (syntactic_error _).mpr rfl
        | some item => exact (list_syntactic (hnested item rfl) _).bind fun _ => syntactic_ok _
      · split
        · cases nested with
          | none => exact (syntactic_error _).mpr rfl
          | some item => exact (object_syntactic (hnested item rfl) _).bind fun _ => syntactic_ok _
        · exact (syntactic_error _).mpr rfl

theorem value_syntactic (n : Nat) (s : List UInt8) : Syntactic (value n s) := by
  induction n generalizing s with
  | zero => exact valueWith_syntactic (by simp) s
  | succ n ih =>
    refine valueWith_syntactic ?_ s
    rintro item ⟨⟩
    exact ih

theorem parse_syntactic (s : List UInt8) : Syntactic (parse s) := by
  refine (value_syntactic _ s).bind fun ⟨v, rest⟩ => ?_
  refine Syntactic.bind ?_ fun _ => syntactic_ok _
  unfold finish
  split
  · exact syntactic_ok _
  · exact (syntactic_error _).mpr rfl

theorem only_isGraphic_cause {cause : Cause} (h : cause.isSyntactic = true) :
    Text.Only Text.IsGraphic cause.message := by
  cases cause <;> first | exact Text.only_literal rfl (by decide) | cases h

theorem only_isGraphic_message {s : List UInt8} {f : Fault} (h : parse s = .error f)
    (input : List UInt8) : Text.Only Text.IsGraphic (f.message input) := by
  have hcause := only_isGraphic_cause (parse_syntactic s f h)
  have hnumber (n : Nat) : Text.Only Text.IsGraphic (toString n) :=
    Text.only_toString (by decide) n
  simp only [Fault.message, Text.only_append]
  refine ⟨⟨⟨⟨hcause, ?_⟩, hnumber _⟩, ?_⟩, hnumber _⟩
  all_goals exact Text.only_literal rfl (by decide)

end LspProbe.Json
