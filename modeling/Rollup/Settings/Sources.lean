import Rollup.Json.Parser
import Rollup.Settings.Reading
import Rollup.Toml.Parser

/-!
Where settings come from. The defaults are laid down first, then the file of the whole system, the
file that the user names, and the variables of the environment; options of the command line replace
what has been read, and the result is checked.
-/
namespace Rollup

namespace Settings

abbrev Files := String → Option String

abbrev Environment := List (String × String)

structure Options where
  file : Option String
  engine : Option String
  connection : Option String
  space : Option String
  dayStep : Option UInt32
deriving DecidableEq, Repr

/-- The layer that lies below all others. -/
def defaults : List (String × Setting) :=
  [("storage", .table [("engine", .text "duckdb"), ("connection", .text ":memory:")]),
    ("naming", .table [("namespace", .text ""), ("day_step", .integer 1)]),
    ("query", .table [
      ("percentile_ranks",
        .list (Percentile.defaultRanks.map fun rank => .integer (Int64.ofInt rank.toInt))),
      ("max_hits", .integer 10000), ("database", .text "skywalking")]),
    ("relational", .table [("pool_size", .integer 4)])]

inductive Format
  | toml
  | json
deriving DecidableEq, Repr

namespace Format

def ending : Format → List Char
  | toml => ".toml".toList
  | json => ".json".toList

def lastPart (path : List Char) : List Char :=
  (path.reverse.takeWhile (· ≠ '/')).reverse

/-- The format that the ending of a name stands for; something has to stand before it. -/
def ofPath? (path : String) : Option Format :=
  let name := lastPart path.toList
  [toml, json].find? fun format =>
    format.ending.isSuffixOf name && format.ending.length < name.length

/-- The layer in a text. A JSON text that is no object gives none. -/
def read? (text : String) : Format → Option (List (String × Setting))
  | toml => (Toml.parse? text).map Setting.fields
  | json => (Json.parse? text).map fun json => (Setting.ofJson json).fields

end Format

/-- The file that a path names, with its format: the file at the path itself, or else the one whose
name also has the ending of a format. -/
def find? (files : Files) (path : String) : Option (String × Format) :=
  match files path with
  | some text => (Format.ofPath? path).map fun format => (text, format)
  | none => [Format.toml, Format.json].findSome? fun format =>
      (files (path ++ String.ofList format.ending)).map fun text => (text, format)

def candidates (path : String) : List String :=
  path :: [Format.toml, Format.json].map fun format => path ++ String.ofList format.ending

def userLayer (files : Files) (path : String) : Except Error (List (String × Setting)) :=
  match find? files path with
  | none => .error (.badSettings s!"no settings file {path}")
  | some (text, format) =>
    match format.read? text with
    | some layer => .ok layer
    | none => .error (.badSettings s!"the settings file {path} cannot be read")

/-- The path of the settings file of the whole system, which need not exist. -/
def systemPath : String := "/etc/apm-metrics/config.toml"

def systemLayer (files : Files) : Except Error (List (String × Setting)) :=
  match find? files systemPath with
  | none => .ok []
  | some _ => userLayer files systemPath

/-- A letter in lower case. The Kelvin sign is the one character beside the ASCII letters whose
lower case is an ASCII letter. -/
def lowerChar (c : Char) : Char :=
  if c = '\u212A' then 'k' else c.toLower

def variableStart : List Char := "apm_metrics_".toList

/-- Puts a point for every two underscores. -/
def pointed : List Char → List Char
  | '_' :: '_' :: rest => '.' :: pointed rest
  | c :: rest => c :: pointed rest
  | [] => []

def variableKey? (name : String) : Option String :=
  let name := name.toList.map lowerChar
  if variableStart.isPrefixOf name then
    some (String.ofList (pointed (name.drop variableStart.length)))
  else none

def environmentLayer (environment : Environment) : List (String × Setting) :=
  environment.filterMap fun (name, value) =>
    (variableKey? name).map fun key => (key, .text value)

/-- All layers from the lowest to the highest. -/
def layers (files : Files) (environment : Environment) (options : Options) :
    Except Error (List (List (String × Setting))) := do
  let system ← systemLayer files
  let user ← match options.file with
    | some path => userLayer files path
    | none => .ok []
  .ok [defaults, system, user, environmentLayer environment]

def override (settings : Settings) (options : Options) : Settings :=
  { settings with
    engine := options.engine.getD settings.engine
    connection := options.connection.getD settings.connection
    space := options.space.getD settings.space
    dayStep := options.dayStep.getD settings.dayStep }

/-- The tree of some layers, each laid over those before it. -/
def treeOf (layers : List (List (String × Setting))) : Outcome Setting :=
  match layers.foldlM Setting.layer (.table []) with
  | .ok tree => .ok tree
  | .error crash => .error (.crash crash)

def load (files : Files) (environment : Environment) (options : Options) : Outcome Settings := do
  let layers ← layers files environment options
  let tree ← treeOf layers
  let settings ← ofTree tree
  let settings := settings.override options
  let _ ← settings.validate
  .ok settings

end Settings

end Rollup
