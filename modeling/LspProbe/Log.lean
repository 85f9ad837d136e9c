import LspProbe.Text.Terminal

/-!
# Log entries

What a run notes about itself, by level. Entries at or below the chosen level are written.
-/

namespace LspProbe.Log

inductive Level where
  | off
  | error
  | warn
  | info
  | debug
  deriving DecidableEq, Repr

namespace Level

def rank : Level → Nat
  | .off => 0
  | .error => 1
  | .warn => 2
  | .info => 3
  | .debug => 4

/-- The name of a level, five columns wide. -/
def label : Level → String
  | .off => "OFF  "
  | .error => "ERROR"
  | .warn => "WARN "
  | .info => "INFO "
  | .debug => "DEBUG"

def ofName? : String → Option Level
  | "off" => some .off
  | "error" => some .error
  | "warn" => some .warn
  | "info" => some .info
  | "debug" => some .debug
  | _ => none

end Level

structure Entry where
  level : Level
  source : String
  message : String
  deriving DecidableEq, Repr

/-- Later lines of a message stand under its first one. -/
def indent (message : String) : String :=
  String.ofList (message.toList.flatMap fun c => if c = '\n' then "\n    ".toList else [c])

/-- An entry as it is written, up to the line end after it. -/
def Entry.text (e : Entry) : String :=
  Text.Terminal.visible
    ("[" ++ e.level.label ++ " " ++ e.source ++ "] " ++ indent e.message ++ "\n")

/-- The entries that are written at a level. -/
def shown (level : Level) (entries : List Entry) : List Entry :=
  entries.filter fun e => e.level.rank ≤ level.rank

end LspProbe.Log
