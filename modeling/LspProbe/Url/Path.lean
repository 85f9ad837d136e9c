import LspProbe.Text.Split
import LspProbe.Url.Percent

/-!
# Paths of URLs

The segments of a path. Dots are resolved while it is read, and segments that name a drive are
kept: nothing leads out of a drive.
-/

namespace LspProbe.Url

/-- Whether a character divides segments. -/
def isSeparator (special : Bool) (c : Char) : Bool := c = '/' || (special && c = '\\')

/-- The segments of a path; always at least one. -/
def splitPath (special : Bool) (cs : List Char) : List (List Char) :=
  Text.splitWhere (isSeparator special) cs

/-- A dot, plain or encoded, taken off the front. -/
def dropDot? : List Char → Option (List Char)
  | '.' :: rest => some rest
  | '%' :: '2' :: 'e' :: rest => some rest
  | '%' :: '2' :: 'E' :: rest => some rest
  | _ => none

/-- A segment that stands for the directory itself. -/
def isDot (cs : List Char) : Bool := dropDot? cs = some []

/-- A segment that stands for the directory above. -/
def isDoubleDot (cs : List Char) : Bool := (dropDot? cs).bind dropDot? = some []

/-- The letter of a segment that names a drive: the letter, then a colon or a bar. -/
def drive? : List Char → Option Char
  | [letter, mark] => if letter.isAlpha && (mark = ':' || mark = '|') then some letter else none
  | _ => none

/-- The text of a drive. -/
def driveText (letter : Char) : String := String.ofList [letter, ':']

/-- Whether a segment is a drive, or a drive and something after a backslash. -/
def startsDrive (segment : String) : Bool :=
  (drive? (segment.toList.takeWhile (· ≠ '\\'))).isSome

/-- The segments above, innermost first, after a double dot. -/
def goUp : List String → List String
  | [] => []
  | last :: above => if startsDrive last then last :: above else above

/-- A segment as it is kept. Only in a `file` URL is a first segment looked at as a drive. -/
def segmentText (isFile : Bool) (above : List String) (cs : List Char) : String :=
  match if isFile && above.isEmpty then drive? cs else none with
  | some letter => driveText letter
  | none => Part.path.encode cs

/-- Adds segments to those above, innermost first. Dots vanish, double dots take one away, and a
path that ends in either ends in a slash. -/
def resolve (isFile : Bool) : List String → List (List Char) → List String
  | above, [] => above
  | above, [last] =>
    if isDoubleDot last then "" :: goUp above
    else if isDot last then "" :: above
    else segmentText isFile above last :: above
  | above, name :: rest =>
    if isDoubleDot name then resolve isFile (goUp above) rest
    else if isDot name then resolve isFile above rest
    else resolve isFile (segmentText isFile above name :: above) rest

/-- The segments, in order, of the characters after a slash. Segments above them are given
innermost first. -/
def pathNames (special isFile : Bool) (above : List String) (cs : List Char) : List String :=
  (resolve isFile above (splitPath special cs)).reverse

/-- Segments without the empty ones in front; at least one is left. -/
def dropEmpty (names : List String) : List String :=
  match names.dropWhile (· = "") with
  | [] => [""]
  | names => names

end LspProbe.Url
