import Rollup.Query.Scope
import Rollup.Settings.Sources
import Rollup.Tool.Options

/-!
The options that settings can be given by, and those of the command-line tool.
-/
namespace Rollup

namespace Settings.Options

def specs : List OptionSpec :=
  [⟨"config", some 'c', .value .path false⟩, ⟨"engine", none, .value .text false⟩,
    ⟨"engine-connection", none, .value .text false⟩, ⟨"namespace", none, .value .text false⟩,
    ⟨"day-step", none, .value .count false⟩, ⟨"help", some 'h', .help⟩,
    ⟨"version", some 'V', .version⟩]

def ofGiven (given : Given) : Settings.Options where
  file := given.value? "config"
  engine := given.value? "engine"
  connection := given.value? "engine-connection"
  space := given.value? "namespace"
  dayStep := (given.value? "day-step").bind ValueForm.count?

def ofArguments (arguments : List String) : Except Usage Settings.Options :=
  (Given.ofArguments specs arguments).map ofGiven

end Settings.Options

structure Tool.Arguments where
  options : Settings.Options
  models : String
  records : Option String
  metrics : List String
  scope : Scope
  bucket : Int64
deriving Repr

namespace Tool.Arguments

def specs : List OptionSpec :=
  Settings.Options.specs ++
    [⟨"models", none, .value .path false⟩, ⟨"records", none, .value .path false⟩,
      ⟨"metric", none, .value .text true⟩, ⟨"entity", none, .value .text false⟩,
      ⟨"children", none, .flag⟩, ⟨"time-bucket", none, .value .amount false⟩,
      ⟨"log-level", none, .value .text false⟩, ⟨"log-filter", none, .value .text false⟩]

/-- Reads the arguments of the tool. Models, metrics and the bucket have to be given. Without
`--children` the entity is a scope of its own. -/
def ofList (arguments : List String) : Except Usage Arguments := do
  let given ← Given.ofArguments specs arguments
  match given.value? "models", given.values "metric",
      (given.value? "time-bucket").bind ValueForm.amount? with
  | some models, metric :: metrics, some bucket =>
    .ok ⟨.ofGiven given, models, given.value? "records", metric :: metrics,
      ⟨(given.value? "entity").getD "", !given.has "children"⟩, bucket⟩
  | none, _, _ => .error (.missingOption "models")
  | _, [], _ => .error (.missingOption "metric")
  | _, _, none => .error (.missingOption "time-bucket")

def paths (arguments : Arguments) : List String :=
  Settings.candidates Settings.systemPath ++
    arguments.options.file.toList.flatMap Settings.candidates ++
    arguments.models :: arguments.records.toList

end Tool.Arguments

end Rollup
