import LspProbe.Json.Number
import LspProbe.Text.Ascii
import LspProbe.Text.Quoted

/-!
# Why a JSON text is refused

A fault is a cause and a place. The place is kept as the number of bytes still unread, which a
reader knows without counting from the start; line and column are worked out at the end.
-/

namespace LspProbe.Json

/-- What stood where something else was wanted. -/
inductive Found where
  | null
  | bool (b : Bool)
  | number (n : Number)
  | text (s : String)
  | list
  | object
  deriving DecidableEq, Repr

def Found.describe : Found → String
  | .null => "null"
  | .bool b => "boolean `" ++ (if b then "true" else "false") ++ "`"
  | .number (.int i) => "integer `" ++ toString i ++ "`"
  | .number (.float x) => "floating point `" ++ x.text ++ "`"
  | .text s => "string " ++ Text.quoted s
  | .list => "sequence"
  | .object => "map"

/-- Causes up to `trailingCharacters` concern the syntax; the others, a value of the wrong shape. -/
inductive Cause where
  | endInValue
  | endInList
  | endInObject
  | endInString
  | expectedValue
  | expectedIdent
  | expectedColon
  | expectedListEnd
  | expectedObjectEnd
  | keyNotString
  | trailingComma
  | invalidNumber
  | numberOutOfRange
  | controlCharacter
  | invalidEscape
  | loneSurrogate
  | unfinishedPair
  | invalidCodePoint
  | nestingLimit
  | trailingCharacters
  | wrongType (found : Found) (expected : String)
  | wrongValue (value : Int) (expected : String)
  | wrongLength (length : Nat) (expected : String)
  | duplicateField (name : String)
  | missingField (name : String)
  deriving DecidableEq, Repr

def Cause.message : Cause → String
  | .endInValue => "EOF while parsing a value"
  | .endInList => "EOF while parsing a list"
  | .endInObject => "EOF while parsing an object"
  | .endInString => "EOF while parsing a string"
  | .expectedValue => "expected value"
  | .expectedIdent => "expected ident"
  | .expectedColon => "expected `:`"
  | .expectedListEnd => "expected `,` or `]`"
  | .expectedObjectEnd => "expected `,` or `\x7d`"
  | .keyNotString => "key must be a string"
  | .trailingComma => "trailing comma"
  | .invalidNumber => "invalid number"
  | .numberOutOfRange => "number out of range"
  | .controlCharacter => "control character (\\u0000-\\u001F) found while parsing a string"
  | .invalidEscape => "invalid escape"
  | .loneSurrogate => "lone leading surrogate in hex escape"
  | .unfinishedPair => "unexpected end of hex escape"
  | .invalidCodePoint => "invalid unicode code point"
  | .nestingLimit => "recursion limit exceeded"
  | .trailingCharacters => "trailing characters"
  | .wrongType found expected => "invalid type: " ++ found.describe ++ ", expected " ++ expected
  | .wrongValue value expected =>
    "invalid value: integer `" ++ toString value ++ "`, expected " ++ expected
  | .wrongLength length expected =>
    "invalid length " ++ toString length ++ ", expected " ++ expected
  | .duplicateField name => "duplicate field `" ++ name ++ "`"
  | .missingField name => "missing field `" ++ name ++ "`"

/-- A cause, noticed with so many bytes unread. -/
structure Fault where
  cause : Cause
  unread : Nat
  deriving DecidableEq, Repr

/-- A fault noticed once everything before `rest` has been taken. -/
def Fault.here (cause : Cause) (rest : List UInt8) : Fault := ⟨cause, rest.length⟩

/-- A fault of the next byte, which is counted as taken if there is one. -/
def Fault.next (cause : Cause) (rest : List UInt8) : Fault := ⟨cause, rest.length - 1⟩

/-- A place in a text: lines count from one, columns are bytes taken on the line. -/
structure Place where
  line : Nat
  column : Nat
  deriving DecidableEq, Repr

/-- The place after one more byte. -/
def Place.advance (p : Place) (b : UInt8) : Place :=
  if b = Ascii.lineFeed then ⟨p.line + 1, 0⟩ else ⟨p.line, p.column + 1⟩

/-- The place after some bytes. -/
def Place.after (bytes : List UInt8) : Place := bytes.foldl Place.advance ⟨1, 0⟩

/-- The message of a fault found while reading `input`. -/
def Fault.message (f : Fault) (input : List UInt8) : String :=
  let place := Place.after (input.take (input.length - f.unread))
  f.cause.message ++ " at line " ++ toString place.line ++ " column " ++ toString place.column

end LspProbe.Json
