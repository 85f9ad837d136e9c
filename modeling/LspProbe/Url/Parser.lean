import LspProbe.Url.Basic
import LspProbe.Url.Path

/-!
# Reading URLs

From a text to a URL: blanks at the ends and line breaks anywhere are dropped, the scheme decides
which rules hold, dot segments are resolved, and every part is encoded. A text without a scheme,
or with just the scheme of a known URL, is read relative to that URL.
-/

namespace LspProbe.Url

def isTrimmed (c : Char) : Bool := c.toNat ≤ 0x20

def isDropped (c : Char) : Bool := c = '\t' || c = '\n' || c = '\r'

/-- The text without controls and blanks at its ends and without tabs and line breaks. -/
def clean (s : String) : List Char :=
  (((s.toList.dropWhile isTrimmed).reverse.dropWhile isTrimmed).reverse).filter (!isDropped ·)

def isSchemeChar (c : Char) : Bool := c.isAlphanum || c = '+' || c = '-' || c = '.'

/-- The scheme, in small letters, and what follows its colon. -/
def scheme? (cs : List Char) : Option (String × List Char) :=
  match cs with
  | [] => none
  | c :: _ =>
    match cs.dropWhile isSchemeChar with
    | ':' :: rest =>
      if c.isAlpha then some (String.ofList ((cs.takeWhile isSchemeChar).map Char.toLower), rest)
      else none
    | _ => none

def isEnd (c : Char) : Bool := c = '?' || c = '#'

/-- The path at the front of a text. -/
def pathPart (cs : List Char) : List Char := cs.takeWhile (!isEnd ·)

/-- The query and fragment that follow the path at the front of a text. -/
def tailOf (special : Bool) (cs : List Char) : Option String × Option String :=
  let part := if special then Part.specialQuery else Part.query
  match cs.dropWhile (!isEnd ·) with
  | '?' :: rest =>
    match rest.dropWhile (· ≠ '#') with
    | '#' :: fragment =>
      (some (part.encode (rest.takeWhile (· ≠ '#'))), some (Part.fragment.encode fragment))
    | _ => (some (part.encode rest), none)
  | '#' :: fragment => (none, some (Part.fragment.encode fragment))
  | _ => (none, none)

/-- A URL from its first parts, with the query and fragment that a text ends in. -/
def withTail (scheme : String) (authority : Option Authority) (path : Path) (cs : List Char) :
    Url :=
  let (query, fragment) := tailOf (isSpecial scheme) cs
  ⟨scheme, authority, path, query, fragment⟩

/-- A text without the separator in front. -/
def dropSeparator (special : Bool) : List Char → List Char
  | [] => []
  | c :: rest => if isSeparator special c then rest else c :: rest

/-- Path, query and fragment after an authority. A special URL always has a path. -/
def finish (scheme : String) (authority : Option Authority) (cs : List Char) : Url :=
  let special := isSpecial scheme
  let names :=
    if pathPart cs = [] ∧ ¬special then []
    else pathNames special false [] (dropSeparator special (pathPart cs))
  withTail scheme authority (.segments names) cs

/-- Where an authority ends. -/
def endsAuthority (special : Bool) (c : Char) : Bool := isSeparator special c || isEnd c

/-- What stands before the last `@`, if there is one, and what follows it. -/
def splitUser (cs : List Char) : Option (List Char) × List Char :=
  match cs.reverse.dropWhile (· ≠ '@') with
  | [] => (none, cs)
  | _ :: before => (some before.reverse, (cs.reverse.takeWhile (· ≠ '@')).reverse)

/-- User and password; an empty password is none. -/
def userOf (cs : List Char) : String × Option String :=
  let user := Part.userinfo.encode (cs.takeWhile (· ≠ ':'))
  match cs.dropWhile (· ≠ ':') with
  | [] => (user, none)
  | [_] => (user, none)
  | _ :: password => (user, some (Part.userinfo.encode password))

/-- The host and what follows it. A colon between brackets belongs to the host. -/
def splitHost : Bool → List Char → List Char × List Char
  | _, [] => ([], [])
  | inside, c :: rest =>
    if c = ':' ∧ ¬inside then ([], c :: rest)
    else
      let (host, left) := splitHost (c = '[' || (inside && c ≠ ']')) rest
      (c :: host, left)

/-- The port after a colon; none if it is empty or the default one. -/
def portOf (scheme : String) (cs : List Char) : Except Flaw (Option Nat) :=
  match cs with
  | [] => .ok none
  | _ :: [] => .ok none
  | _ :: digits =>
    match valueIn? 10 digits with
    | none => .error .invalidPort
    | some port =>
      if 65535 < port then .error .invalidPort
      else if defaultPort? scheme = some port then .ok none
      else .ok (some port)

/-- Whether a URL with such users has to name a host. -/
def needsHost (userinfo : Option (List Char)) (user : String) (password : Option String) : Bool :=
  userinfo = some [] || user ≠ "" || password.isSome

/-- The authority that a text consists of, and what a backslash cuts off after its port. -/
def authorityOf (scheme : String) (cs : List Char) : Except Flaw (Authority × List Char) := do
  let special := isSpecial scheme
  let (userinfo, hostAndPort) := splitUser cs
  let (user, password) := (userinfo.map userOf).getD ("", none)
  let (hostChars, portChars) := splitHost false hostAndPort
  if hostChars = [] ∧ (special ∨ portChars ≠ [] ∨ needsHost userinfo user password) then
    .error .emptyHost
  else
    let host ← if special then Host.parse hostChars else Host.parsePlain hostChars
    let port ← portOf scheme (portChars.takeWhile (· ≠ '\\'))
    .ok (⟨user, password, host, port⟩, portChars.dropWhile (· ≠ '\\'))

/-- A URL from what follows the slashes before its authority. -/
def afterSlashes (scheme : String) (cs : List Char) : Except Flaw Url := do
  let special := isSpecial scheme
  let (authority, left) ← authorityOf scheme (cs.takeWhile (!endsAuthority special ·))
  .ok (finish scheme (some authority) (left ++ cs.dropWhile (!endsAuthority special ·)))

/-- A `file` URL from its host and what follows the slash that its path starts with. A drive in
front of the path takes the place of the host, and no segment in front is empty. -/
def fileWith (host : Host) (cs : List Char) : Url :=
  let names := pathNames true true [] (pathPart cs)
  let isDrive := (names.head?.bind (drive? ·.toList)).isSome
  withTail "file" (some ⟨"", none, if isDrive then .name "" else host, none⟩)
    (.segments (dropEmpty names)) cs

/-- A `file` URL after two slashes. A drive is no host, and `localhost` is the same as none; after
no host the path may start with a slash of its own. -/
def fileAfterSlashes (cs : List Char) : Except Flaw Url := do
  let hostChars := cs.takeWhile (!endsAuthority true ·)
  let left := cs.dropWhile (!endsAuthority true ·)
  if (drive? hostChars).isSome then .ok (fileWith (.name "") cs)
  else if hostChars = [] then .ok (fileWith (.name "") left)
  else
    let host ← Host.parse hostChars
    if host = .name "localhost" then .ok (fileWith (.name "") left)
    else .ok (fileWith host (dropSeparator true left))

/-- A `file` URL. -/
def fileUrl (cs : List Char) : Except Flaw Url :=
  match cs with
  | a :: b :: rest =>
    if isSeparator true a ∧ isSeparator true b then fileAfterSlashes rest
    else .ok (fileWith (.name "") (dropSeparator true cs))
  | cs => .ok (fileWith (.name "") (dropSeparator true cs))

/-- A URL whose scheme has no rules of its own. -/
def plainUrl (scheme : String) (cs : List Char) : Except Flaw Url :=
  match cs with
  | '/' :: '/' :: rest => afterSlashes scheme rest
  | '/' :: _ => .ok (finish scheme none cs)
  | cs => .ok (withTail scheme none (.plain (Part.plainPath.encode (pathPart cs))) cs)

/-- A URL from its scheme and what follows the colon. -/
def afterScheme (scheme : String) (cs : List Char) : Except Flaw Url :=
  if scheme = "file" then fileUrl cs
  else if isSpecial scheme then afterSlashes scheme (cs.dropWhile (isSeparator true ·))
  else plainUrl scheme cs

/-- The URL that a text stands for. -/
def parse (s : String) : Except Flaw Url :=
  match scheme? (clean s) with
  | none => .error .noScheme
  | some (scheme, rest) => afterScheme scheme rest

/-- The segments that a relative path is added to, innermost first: all but the last one. -/
def Path.above : Path → List String
  | .segments names => names.dropLast.reverse
  | .plain _ => []

/-- What a text without a scheme stands for, seen from a URL of a special scheme: another host
after two slashes, another path after one, and else another end of the URL. -/
def relativeTo (base : Url) (cs : List Char) : Except Flaw Url :=
  let under (above : List String) (cs : List Char) : Url :=
    withTail base.scheme base.authority
      (.segments (pathNames true false above (pathPart cs))) cs
  match cs with
  | [] => .ok { base with fragment := none }
  | '?' :: _ => .ok (withTail base.scheme base.authority base.path cs)
  | '#' :: fragment => .ok { base with fragment := some (Part.fragment.encode fragment) }
  | '/' :: '/' :: rest => afterSlashes base.scheme rest
  | a :: rest =>
    if isSeparator true a then
      if (rest.head?.map (isSeparator true)).getD false then
        afterSlashes base.scheme (rest.dropWhile (isSeparator true ·))
      else .ok (under [] rest)
    else .ok (under base.path.above cs)

/-- What a text stands for, seen from a URL of a special scheme. The scheme of that URL with less
than two slashes after it says nothing new. -/
def join (base : Url) (s : String) : Except Flaw Url :=
  match scheme? (clean s) with
  | none => relativeTo base (clean s)
  | some (scheme, rest) =>
    if scheme = base.scheme ∧ (rest.takeWhile (isSeparator true ·)).length < 2 then
      relativeTo base rest
    else afterScheme scheme rest

end LspProbe.Url
