import Rollup.Amount
import Rollup.Text.Numeral

/-!
Options of a command line. An option is given by its long name or its letter, and its value stands
in the same argument or in the next one. A value in the next argument is looked at only when
another option or the end comes, while an argument that fits nothing is refused at once.
-/
namespace Rollup

inductive Usage
  | unknownArgument (argument : String)
  | missingValue (option : String)
  | badValue (option value : String)
  | repeatedOption (option : String)
  | unneededValue (option : String)
  | missingOption (option : String)
  | help
  | version
deriving DecidableEq, Repr

namespace Usage

def text : Usage → String
  | unknownArgument argument => s!"unexpected argument {argument}"
  | missingValue option => s!"--{option} needs a value"
  | badValue option value => s!"--{option} cannot be {value}"
  | repeatedOption option => s!"--{option} is given more than once"
  | unneededValue option => s!"--{option} takes no value"
  | missingOption option => s!"--{option} has to be given"
  | help => "usage"
  | version => "version"

end Usage

inductive ValueForm
  | text
  | path
  | count
  | amount
deriving DecidableEq, Repr

inductive OptionRole
  | value (form : ValueForm) (repeatable : Bool)
  | flag
  | help
  | version
deriving DecidableEq, Repr

structure OptionSpec where
  name : String
  letter : Option Char
  role : OptionRole
deriving DecidableEq, Repr

/-- The values given so far under the names of their options, the latest first. -/
abbrev Given := List (String × String)

namespace Given

def value? (given : Given) (name : String) : Option String :=
  given.lookup name

def values (given : Given) (name : String) : List String :=
  (given.filter (·.1 = name)).reverse.map (·.2)

def has (given : Given) (name : String) : Bool :=
  (given.lookup name).isSome

end Given

namespace ValueForm

/-- A count below 2^32. -/
def count? (value : String) : Option UInt32 :=
  ((Numeral.signed? value.toList).bind Amount.ofInt?).bind fun n =>
    if 0 ≤ n.toInt ∧ n.toInt < UInt32.size then some (UInt32.ofNat n.toInt.toNat) else none

def amount? (value : String) : Option Int64 :=
  (Numeral.signed? value.toList).bind Amount.ofInt?

/-- Checks the value of an option. An empty path counts as no value. -/
def check (form : ValueForm) (option value : String) : Except Usage Unit :=
  match form with
  | text => .ok ()
  | path => if value = "" then .error (.missingValue option) else .ok ()
  | count => if (count? value).isSome then .ok () else .error (.badValue option value)
  | amount => if (amount? value).isSome then .ok () else .error (.badValue option value)

end ValueForm

/-- What has been read of the arguments. An option that expects its value in an argument of its own
stays pending, also with that value. -/
structure ArgumentScan where
  given : Given
  pending : Option (OptionSpec × Option String)
  trailing : Bool
deriving Repr

namespace ArgumentScan

def initial : ArgumentScan := ⟨[], none, false⟩

def accept (given : Given) (option : OptionSpec) (value : Option String) : Except Usage Given :=
  match option.role, value with
  | .value _ _, none => .error (.missingValue option.name)
  | .value form repeatable, some value =>
    if !repeatable ∧ given.has option.name then .error (.repeatedOption option.name)
    else (form.check option.name value).map fun _ => (option.name, value) :: given
  | .flag, _ =>
    if given.has option.name then .error (.repeatedOption option.name)
    else .ok ((option.name, "true") :: given)
  | .help, _ => .error .help
  | .version, _ => .error .version

def settle (scan : ArgumentScan) : Except Usage Given :=
  match scan.pending with
  | some (option, value) => accept scan.given option value
  | none => .ok scan.given

def takesValue (option : OptionSpec) : Bool :=
  match option.role with
  | .value _ _ => true
  | _ => false

def readOption (scan : ArgumentScan) (option : OptionSpec) (attached : Option String) :
    Except Usage ArgumentScan :=
  match takesValue option, attached with
  | true, none => scan.settle.map fun given => ⟨given, some (option, none), false⟩
  | false, some _ => .error (.unneededValue option.name)
  | _, attached => do
    let given ← scan.settle
    let given ← accept given option attached
    .ok ⟨given, none, false⟩

def longParts (text : List Char) : String × Option String :=
  let name := text.takeWhile (· ≠ '=')
  (String.ofList name,
    if name = text then none else some (String.ofList (text.drop (name.length + 1))))

/-- Reads letters behind a single dash. What follows a letter with a value is that value. -/
def readLetters (options : List OptionSpec) (argument : String) (scan : ArgumentScan) :
    List Char → Except Usage ArgumentScan
  | [] => .ok scan
  | c :: rest =>
    match options.find? (·.letter = some c) with
    | none => .error (.unknownArgument argument)
    | some option =>
      if takesValue option then
        let attached := if rest.head? = some '=' then rest.drop 1 else rest
        scan.readOption option (if rest = [] then none else some (String.ofList attached))
      else do
        let scan ← scan.readOption option none
        readLetters options argument scan rest

def step (options : List OptionSpec) (scan : ArgumentScan) (argument : String) :
    Except Usage ArgumentScan :=
  if scan.trailing then .error (.unknownArgument argument)
  else
    match argument.toList with
    | ['-', '-'] => .ok { scan with trailing := true }
    | '-' :: '-' :: text =>
      let (name, attached) := longParts text
      match options.find? (·.name = name) with
      | some option => scan.readOption option attached
      | none => .error (.unknownArgument argument)
    | '-' :: c :: rest => scan.readLetters options argument (c :: rest)
    | _ =>
      match scan.pending with
      | some (option, none) => .ok { scan with pending := some (option, some argument) }
      | _ => .error (.unknownArgument argument)

end ArgumentScan

def Given.ofArguments (options : List OptionSpec) (arguments : List String) :
    Except Usage Given := do
  let scan ← arguments.foldlM (ArgumentScan.step options) .initial
  scan.settle

end Rollup
