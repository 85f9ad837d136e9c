import LspProbe.Url.Parser

/-!
# Addresses

The form in which a URL is put into a request. It asks more of the authority than a URL does, and
without one takes a URL only if all of it could be an authority.
-/

namespace LspProbe.Url

/-- The longest address and the longest scheme of one. -/
def maxAddress : Nat := 65534

def maxScheme : Nat := 64

/-- Characters that mean nothing special in an authority. -/
def isAuthorityChar (c : Char) : Bool :=
  c.isAlphanum ||
    ['!', '$', '&', '\'', '(', ')', '*', '+', ',', '-', '.', ';', '=', '_', '~'].contains c

/-- What has been seen of an authority: colons and percent signs of the part being read, and
brackets. -/
structure AuthorityScan where
  colons : Nat
  percent : Bool
  opened : Bool
  closed : Bool

/-- Goes past one character. A bracket that closes and an `@` end a part. -/
def AuthorityScan.next? (s : AuthorityScan) (c : Char) : Option AuthorityScan :=
  match c with
  | ':' => if s.colons < 8 then some { s with colons := s.colons + 1 } else none
  | '%' => some { s with percent := true }
  | '@' => some { s with colons := 0, percent := false }
  | '[' => if s.percent || s.opened then none else some { s with opened := true }
  | ']' =>
    if s.opened && !s.closed then
      some { colons := 0, percent := false, opened := true, closed := true }
    else none
  | c => if isAuthorityChar c then some s else none

/-- Whether a text is an authority: at most one colon divides host and port, brackets come in a
pair, only what stands before an `@` is encoded, and something follows that. -/
def isAuthority (cs : List Char) : Bool :=
  match cs.foldlM AuthorityScan.next? ⟨0, false, false, false⟩ with
  | some s => s.opened = s.closed && s.colons ≤ 1 && !s.percent && cs.getLast? ≠ some '@'
  | none => false

/-- Whether a text is an address. -/
def isAddressText (cs : List Char) : Bool :=
  cs.length ≤ maxAddress &&
    match cs.dropWhile isSchemeChar with
    | ':' :: '/' :: '/' :: rest =>
      let authority := rest.takeWhile (!endsAuthority false ·)
      (cs.takeWhile isSchemeChar).length ≤ maxScheme && authority ≠ [] && isAuthority authority
    | _ => isAuthority cs

/-- Whether a URL can be put into a request. -/
def isAddress (u : Url) : Bool := isAddressText u.text.toList

/-- A URL as an address names it: without a fragment, and with a path after its authority. -/
def addressed (u : Url) : Url :=
  { u with
    path := if u.authority.isSome ∧ u.path = .segments [] then .segments [""] else u.path
    fragment := none }

end LspProbe.Url
