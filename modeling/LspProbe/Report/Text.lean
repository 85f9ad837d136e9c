import LspProbe.Json.Printer
import LspProbe.Outcome
import LspProbe.Query.Kind
import LspProbe.Reply.Locations
import LspProbe.Reply.Signatures

/-!
# Outcomes as text

Each outcome is a list of lines: its status, a count, and the entries numbered from one.
-/

namespace LspProbe.Report

def joinLines (lines : List String) : String := String.intercalate "\n" lines

def boolText (b : Bool) : String := if b then "true" else "false"

/-- The line that announces a query. -/
def banner (kind : QueryKind) (file : String) (line character : UInt32)
    (includeDeclaration : Option Bool) : String :=
  "Testing " ++ kind.name ++ ": " ++ file ++ ":" ++ toString line.toNat ++ ":"
    ++ toString character.toNat ++
    match includeDeclaration with
    | some b => " (include declaration: " ++ boolText b ++ ")"
    | none => ""

/-- The first line: whether the query succeeded, and with which status or error. -/
def statusLine {α : Type} (kind : QueryKind) (o : Outcome α) : String :=
  if o.success then
    match o.statusCode with
    | some code => kind.name ++ " succeeded (status " ++ toString code ++ ")"
    | none => kind.name ++ " succeeded"
  else kind.name ++ " failed: " ++ o.error.getD "unknown error"

/-- The data to show: none for a failure, whatever it carries. -/
def shownData {α : Type} (o : Outcome α) : Option α := if o.success then o.data else none

/-- A range on one line; one that is missing or null shows as an empty object. -/
def rangeText : Option Json → String
  | none => "\x7b\x7d"
  | some .null => "\x7b\x7d"
  | some range => range.compact

/-- The heading of an entry. -/
def entryLine (index : Nat) (title : Option String) : String :=
  "  " ++ toString index ++ ". " ++ title.getD "N/A"

/-- The lines of each entry, numbered from `first` on. -/
def numbered {α : Type} (lines : Nat → α → List String) : Nat → List α → List String
  | _, [] => []
  | first, a :: rest => lines first a ++ numbered lines (first + 1) rest

def locationLines (index : Nat) (l : Location) : List String :=
  [entryLine index l.uri, "     range: " ++ rangeText l.range]

/-- What a locations query looks for. -/
def noun : QueryKind → String
  | .references => "references"
  | _ => "definitions"

/-- The lines after the status line of a locations query. -/
def locationsBody (kind : QueryKind) (l : Locations) : List String :=
  if l.items = [] then ["No " ++ noun kind ++ " found"]
  else ("Found " ++ toString l.items.length ++ " " ++ noun kind ++ ":")
    :: numbered locationLines 1 l.items

def documentationLine (s : Signature) : List String :=
  match s.documentationText with
  | some text => ["     documentation: " ++ text]
  | none => []

def parametersLine (s : Signature) : List String :=
  if s.parameterCount = 0 then [] else ["     parameters: " ++ toString s.parameterCount]

def signatureLines (index : Nat) (s : Signature) : List String :=
  entryLine index s.label :: documentationLine s ++ parametersLine s

/-- The lines after the status line of a signature query. -/
def signaturesBody (r : SignatureReply) : List String :=
  if r.signatures = [] then ["No signature information"]
  else ("Found " ++ toString r.signatures.length ++ " signatures:")
    :: numbered signatureLines 1 r.signatures

/-- The lines of an outcome: its status, then what its data shows. -/
def outcomeLines {α : Type} (kind : QueryKind) (body : α → List String) (o : Outcome α) :
    List String :=
  statusLine kind o ::
    match shownData o with
    | some data => body data
    | none => []

def locations (kind : QueryKind) (o : Outcome Locations) : String :=
  joinLines (outcomeLines kind (locationsBody kind) o)

def signature (o : Outcome SignatureReply) : String :=
  joinLines (outcomeLines .signature signaturesBody o)

end LspProbe.Report
