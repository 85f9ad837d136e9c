import LspProbe.Json.Printer

/-!
# Positions

A zero-based place in a file, as it is sent over the wire.
-/

namespace LspProbe

structure Position where
  uri : String
  line : UInt32
  character : UInt32
  deriving DecidableEq, Repr

namespace Position

/-- The position in the file at a path. The path follows `file://` as it is, without escaping. -/
def ofFile (path : String) (line character : UInt32) : Position :=
  ⟨"file://" ++ path, line, character⟩

/-- The members of a position, in the order in which they are written. -/
def members (p : Position) : Json.Members :=
  [("uri", .str p.uri), ("line", .nat p.line.toNat), ("character", .nat p.character.toNat)]

def toJson (p : Position) : Json := .obj p.members

end Position

end LspProbe
