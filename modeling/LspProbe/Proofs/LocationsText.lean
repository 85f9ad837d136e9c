import LspProbe.Proofs.Characters
import LspProbe.Proofs.Json.Doubles
import LspProbe.Proofs.Reports

/-!
# The text of locations

Each line of a report of locations is one line of its text, as long as no uri breaks a line: a
range is a text of a value, and no text of a value does. So the text determines the status, the
number of locations, and what is shown of each.
-/

namespace LspProbe

namespace Report

/-- The uri that is shown of a location. -/
def uriText (l : Location) : String := l.uri.getD "N/A"

/-- What is shown of a location. -/
def shown (l : Location) : String × String := (uriText l, rangeText l.range)

end Report

end LspProbe
