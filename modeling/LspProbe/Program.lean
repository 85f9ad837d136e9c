import LspProbe.Client.Basic
import LspProbe.CommandLine.Parser

/-!
# The program

From the arguments to an exit status: what is written, what is logged and which requests are sent.
-/

namespace LspProbe

namespace Program

def version : String := "arkts-lsp-tester 0.1.0"

/-- The help text, line by line. -/
def helpLines : List String :=
  ["Command-line client that exercises the ArkTS/ETS language server HTTP endpoints",
    "",
    "Usage: arkts-lsp-test [OPTIONS] --file <FILE> --line <LINE> --character <CHARACTER>",
    "",
    "Options:",
    "      --test <TEST>                  Which query to run [default: all] "
      ++ "[possible values: definition, references, signature, all]",
    "      --file <FILE>                  Path of the .ets file to query",
    "      --line <LINE>                  Zero-based line number",
    "      --character <CHARACTER>        Zero-based character offset within the line",
    "      --url <URL>                    Base URL of the LSP HTTP server "
      ++ "[default: http://localhost:3000]",
    "      --include-declaration          Include the declaration in reference results "
      ++ "(references test only)",
    "      --timeout-secs <TIMEOUT_SECS>  Request timeout in seconds; 0 disables the timeout "
      ++ "[default: 30]",
    "      --json                         Print outcomes as JSON instead of text",
    "      --strict                       In `all` mode, exit non-zero when any query failed",
    "  -h, --help                         Print help",
    "  -V, --version                      Print version"]

def noticeText : CommandLine.Notice → String
  | .help => String.join (helpLines.map (· ++ "\n"))
  | .version => version ++ "\n"

/-- What the program finds when it starts. -/
structure World where
  pathExists : String → Bool
  server : Http.Server
  script : Http.Script
  logLevel : Log.Level
  /-- Where connections lead that are not meant for the server's own peer. -/
  route : Http.Peer → Http.Route := server.localRoute

/-- Where connections lead. -/
def World.network (w : World) : Http.Network := ⟨w.server, w.route⟩

/-- What a run leaves behind. -/
structure Run where
  exit : Nat
  stdout : String
  stderr : String
  requests : List Http.Request
  deriving DecidableEq, Repr

/-- The part of the program that takes notes on runs. -/
def logSource : String := "arkts_lsp_test"

/-- The limit of a request as it is logged. -/
def limitText (secs : Nat) : String :=
  if secs = 0 then "None" else "Some(" ++ toString secs ++ "s)"

/-- The note that opens a run. -/
def openingEntry (o : CommandLine.Options) : Log.Entry :=
  ⟨.info, logSource,
    "Querying " ++ o.url ++ " (" ++ o.test.title ++ ", timeout " ++ limitText o.timeoutSecs ++ ")"⟩

/-- Asks the queries of the chosen test. -/
def asked (w : World) (o : CommandLine.Options) : Asked Execution :=
  Client.run ⟨o.config, w.network⟩ o.test o.target o.includeDeclaration w.script

/-- What is printed about an execution. -/
def output (o : CommandLine.Options) (e : Execution) : String :=
  (if o.json then e.json else e.text o.target o.includeDeclaration) ++ "\n"

/-- A run whose file exists. -/
def query (w : World) (o : CommandLine.Options) : Run :=
  let a := asked w o
  { exit := if a.result.isFailure o.strict then 1 else 0
    stdout := output o a.result
    stderr := String.join ((Log.shown w.logLevel (openingEntry o :: a.log)).map Log.Entry.text)
    requests := a.requests }

/-- What is written about a mistake on the command line. -/
def usageText (e : CommandLine.UsageError) : String :=
  e.message ++ "\n\nFor more information, try '--help'.\n"

/-- A whole run. -/
def run (w : World) (arguments : List String) : Run :=
  match CommandLine.parse arguments with
  | .error e => ⟨2, "", usageText e, []⟩
  | .ok (.notice n) => ⟨0, noticeText n, "", []⟩
  | .ok (.run o) =>
    if w.pathExists o.target.file then query w o
    else ⟨1, "", "File does not exist: " ++ o.target.file ++ "\n", []⟩

end Program

end LspProbe
