import LspProbe.Text.Split
import LspProbe.Text.Utf8

/-!
# File trees

Files and directories, and which paths lead to one of them.
-/

namespace LspProbe

/-- The files and directories that exist and the directory that relative paths start from, each as
the names from the root on. -/
structure FileTree where
  files : List (List String)
  directories : List (List String)
  start : List String

namespace FileTree

/-- The names of a path, with the empty ones between slashes. -/
def names (path : String) : List String := (Text.splitAt '/' path.toList).map String.ofList

/-- Where the names of a path start. -/
def origin (t : FileTree) (path : String) : List String :=
  if path.toList.head? = some '/' then [] else t.start

/-- The place that a name leads to from a directory. -/
def step (place : List String) (name : String) : List String :=
  if name = "" ∨ name = "." then place else if name = ".." then place.dropLast else place ++ [name]

/-- The places on the way of names from a place, the place itself included. -/
def way (place : List String) : List String → List (List String)
  | [] => [place]
  | name :: rest => place :: way (step place name) rest

/-- Whether names lead to a directory: the root, or one that exists or has something in it. -/
def isDirectory (t : FileTree) (names : List String) : Bool :=
  (t.start :: t.directories).any names.isPrefixOf
    || t.files.any fun file => names.isPrefixOf file && names != file

def isFile (t : FileTree) (names : List String) : Bool := t.files.contains names

/-- Adds a file at a path, and every directory on the way. -/
def add (t : FileTree) (path : String) : FileTree :=
  let places := way (t.origin path) (names path)
  { t with
    files := (places.getLast?).toList ++ t.files
    directories := places.dropLast ++ t.directories }

/-- The longest name a file may have, in bytes. -/
def maxName : Nat := 255

/-- The longest path, in bytes. -/
def maxPath : Nat := 4095

/-- Follows the names of a path. Every step starts from a directory. -/
def walk (t : FileTree) : List String → List String → Bool
  | place, [] => t.isDirectory place || t.isFile place
  | place, name :: rest =>
    t.isDirectory place && (Utf8.encode name).length ≤ maxName && walk t (step place name) rest

/-- Whether a path leads to a file or a directory. -/
def pathExists (t : FileTree) (path : String) : Bool :=
  path != "" && (Utf8.encode path).length ≤ maxPath && t.walk (t.origin path) (names path)

end FileTree

end LspProbe
