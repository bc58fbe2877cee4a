import Rollup.Tool.Run

/-!
The command line: it reads the environment and the files that a run may need, runs the tool on
them, and prints what comes of it.
-/
namespace Rollup

namespace Tool

def readText (path : String) : IO (Option String) := do
  try
    let text ← IO.FS.readFile path
    return some text
  catch _ => return none

/-- The variables in a block of zero-terminated assignments. -/
def assignments (block : List Char) : Settings.Environment :=
  (Text.pieces '\x00' block).filterMap fun assignment =>
    (Text.cut '=' assignment).map fun (name, value) => (String.ofList name, String.ofList value)

def readEnvironment : IO Settings.Environment := do
  let block ← readText "/proc/self/environ"
  return assignments (block.getD "").toList

def readFiles (paths : List String) : IO Settings.Files := do
  let texts ← paths.mapM readText
  return fun path => ((paths.zip texts).lookup path).join

def helpText : String :=
  "\n".intercalate ("Usage: metrics-query [OPTIONS]" ::
    Arguments.specs.map fun option => s!"  --{option.name}")

def report : Stop → IO Unit
  | .usage .help => IO.println helpText
  | .usage .version => IO.println "metrics-query 0.1.0"
  | .usage usage => IO.eprintln s!"error: {usage.text}"
  | .trouble trouble => IO.eprintln s!"Error: {trouble.text}"
  | .crash _ => IO.eprintln "the run ended in arithmetic that has no result"

def start (arguments : List String) : IO UInt32 := do
  let outcome ← match Arguments.ofList arguments with
    | .error usage => pure (.error (.usage usage))
    | .ok parsed => do
      let files ← readFiles parsed.paths
      let environment ← readEnvironment
      pure (query files environment parsed)
  match outcome with
  | .ok results =>
    IO.println (shown results)
    return 0
  | .error stop =>
    report stop
    return stop.status.toUInt32

end Tool

end Rollup

def main (arguments : List String) : IO UInt32 :=
  Rollup.Tool.start arguments
