import LspProbe.Http.Script
import LspProbe.Program

/-!
# The command line program

Reads the world, runs the program, writes what it leaves behind. The server is played by the
script on standard input. It is found on this machine at port 3000, by address and as localhost,
so that the default URL leads to it.
-/

namespace LspProbe.Main

/-- The lines of a stream, up to its end. -/
partial def lines (input : IO.FS.Stream) : IO (List String) := do
  let line ← input.getLine
  if line.isEmpty then return []
  return line.trimAscii.toString :: (← lines input)

/-- Whether the file system has something at a path. -/
def pathExists (path : String) : IO Bool := do
  try
    let _ ← IO.FS.realPath path
    return true
  catch _ => return false

/-- The file that the arguments ask about, if they ask for a run. -/
def fileOf (arguments : List String) : Option String :=
  match CommandLine.parse arguments with
  | .ok (.run o) => some o.target.file
  | _ => none

/-- The level of the log, from the environment. -/
def logLevel : IO Log.Level := do
  let name ← IO.getEnv "LSP_PROBE_LOG"
  return (name.bind Log.Level.ofName?).getD .error

def world (arguments : List String) : IO Program.World := do
  let found ← match fileOf arguments with
    | some file => pathExists file
    | none => pure false
  let script ← if found then lines (← IO.getStdin) else pure []
  return {
    pathExists := fun _ => found
    server := ⟨3000, true⟩
    script := script.map Http.Reply.ofLine
    logLevel := ← logLevel }

end LspProbe.Main

def main (arguments : List String) : IO UInt32 := do
  let run := LspProbe.Program.run (← LspProbe.Main.world arguments) arguments
  IO.print run.stdout
  IO.eprint run.stderr
  return UInt32.ofNat run.exit
