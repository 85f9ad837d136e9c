import LspProbe.Json.Basic

/-!
# Signatures

The body of a reply to a signature query, kept as it came, and the signatures read from it.
-/

namespace LspProbe

/-- One signature. Documentation that is null counts as absent. -/
structure Signature where
  label : Option String
  documentation : Option Json
  parameters : List Json

structure SignatureReply where
  body : Json

namespace Signature

def ofEntry (entry : Json) : Signature where
  label := (entry.get? "label").bind Json.asString?
  documentation := (entry.get? "documentation").filter (!·.isNull)
  parameters := ((entry.get? "parameters").bind Json.asList?).getD []

/-- Documentation is a text, or an object whose `value` is one. -/
def documentationOf : Json → Option String
  | .str s => some s
  | .obj members => (Json.Members.get? "value" members).bind Json.asString?
  | _ => none

/-- The documentation to show: none if it is empty. -/
def documentationText (s : Signature) : Option String :=
  (s.documentation.bind documentationOf).filter (· ≠ "")

def parameterCount (s : Signature) : Nat := s.parameters.length

def same (a b : Signature) : Bool :=
  a.label == b.label && Json.sameOption a.documentation b.documentation
    && Json.sameItems a.parameters b.parameters

end Signature

namespace SignatureReply

/-- The entries of the `signatures` list; none for a body of another shape. -/
def signatures (r : SignatureReply) : List Signature :=
  match (r.body.get? "signatures").bind Json.asList? with
  | some entries => entries.map Signature.ofEntry
  | none => []

def same (a b : SignatureReply) : Bool := a.body.same b.body

/-- Whether two lists of signatures agree one by one. -/
def sameSignatures : List Signature → List Signature → Bool
  | [], [] => true
  | a :: as, b :: bs => a.same b && sameSignatures as bs
  | _, _ => false

end SignatureReply

end LspProbe
