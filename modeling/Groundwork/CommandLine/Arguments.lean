import Groundwork.Table
import Groundwork.Text.Search

/-!
# Command-line arguments

How the arguments of a command are read.  A command knows options, each by a long name and some by
a letter, and perhaps commands of its own, whose arguments come last.  An option may take a value,
attached with an equals sign or as the next argument; a next argument that begins with a hyphen is
never a value.  Arguments are read from left to right and the first fault ends the reading.  An
option without its value is noticed when the next option or the end is reached.
-/

namespace Groundwork.CommandLine

/-! ### Options -/

/-- Whether an option takes a value; the label names the value in help texts. -/
inductive Arity where
  | switch
  | value (label : String)
  /-- A value may be left out; then `missing` stands for it. -/
  | optionalValue (label missing : String)
  deriving DecidableEq

/-- What an option is there for. -/
inductive Purpose where
  | store
  | help
  | version
  deriving DecidableEq

/-- An option of a command. -/
structure ArgOption where
  /-- The long name, without hyphens. -/
  name : String
  /-- The letter of a switch. -/
  letter : Option Char := none
  arity : Arity := .switch
  purpose : Purpose := .store
  /-- The environment variable that holds the value if no argument gives it. -/
  fromVariable : Option String := none
  /-- Whether a text may be the value. -/
  accepts : String → Bool := fun _ => true
  /-- One line of help. -/
  help : String := ""

/-- What is wrong with arguments. -/
inductive UsageFault where
  | unknown (argument : String)
  | missingValue (name : String)
  | repeated (name : String)
  | unwantedValue (name value : String)
  | badValue (name value : String)
  | unknownCommand (name : String)
  | missingCommand
  | noArguments
  deriving DecidableEq

/-- Why the reading of arguments ends early. -/
inductive Stop where
  | fault (fault : UsageFault)
  /-- The user asks for help. -/
  | help
  /-- The user asks for the version. -/
  | version
  deriving DecidableEq

/-! ### Reading -/

/-- What has been read. -/
structure Reading where
  /-- The values of options. -/
  taken : Table String String := []
  /-- The option read last, with the value that followed it, if its value is not attached. -/
  pending : Option (ArgOption × Option String) := none

namespace Reading

/-- Stores the value of an option. -/
def store (o : ArgOption) (value : String) (r : Reading) : Except Stop Reading :=
  if Table.has r.taken o.name then .error (.fault (.repeated o.name))
  else if !o.accepts value then .error (.fault (.badValue o.name value))
  else .ok { r with taken := Table.put o.name value r.taken }

/-- Stores the option read last. -/
def settle (r : Reading) : Except Stop Reading :=
  match r.pending with
  | none => .ok r
  | some (o, value) =>
    let r := { r with pending := none }
    match value, o.arity with
    | some v, _ => r.store o v
    | none, .optionalValue _ missing => r.store o missing
    | none, _ => .error (.fault (.missingValue o.name))

/-- Does what a switch is there for. -/
def turnOn (o : ArgOption) (r : Reading) : Except Stop Reading :=
  match r.settle with
  | .error stop => .error stop
  | .ok r =>
    match o.purpose with
    | .store => r.store o "true"
    | .help => .error .help
    | .version => .error .version

/-- Reads an option by its long name; says whether a value may follow. -/
def long (options : List ArgOption) (name : String) (value : Option String) (r : Reading) :
    Except Stop (Reading × Bool) :=
  match options.find? fun o => o.name = name with
  | none => .error (.fault (.unknown ("--" ++ name)))
  | some o =>
    match o.arity, value with
    | .switch, none => (r.turnOn o).map fun r => (r, false)
    | .switch, some v => .error (.fault (.unwantedValue o.name v))
    | _, some v => (r.settle.bind fun r => r.store o v).map fun r => (r, false)
    | _, none => r.settle.map fun r => ({ r with pending := some (o, none) }, true)

/-- Reads switches by their letters. -/
def letters (options : List ArgOption) : List Char → Reading → Except Stop Reading
  | [], r => .ok r
  | c :: cs, r =>
    match options.find? fun o => o.letter = some c with
    | none => .error (.fault (.unknown (String.ofList ['-', c])))
    | some o =>
      match r.turnOn o with
      | .ok r => letters options cs r
      | .error stop => .error stop

/-- The fault of an argument that is neither an option nor a value. -/
def stray (commands : List String) (argument : String) : UsageFault :=
  if commands.isEmpty || commands.contains argument then .unknown argument
  else .unknownCommand argument

/-- Reads arguments up to the name of a command.  `awaiting` says whether the next argument may be a
value. -/
def arguments (options : List ArgOption) (commands : List String) :
    Bool → Reading → List String → Except Stop (Reading × Option (String × List String))
  | _, r, [] => .ok (r, none)
  | awaiting, r, argument :: rest =>
    if !awaiting && commands.contains argument then .ok (r, some (argument, rest))
    else
      match argument.toList with
      | ['-', '-'] =>
        match rest with
        | [] => .ok (r, none)
        | next :: _ => .error (.fault (stray commands next))
      | '-' :: '-' :: name =>
        let (name, value) := match Text.cut? '=' (String.ofList name) with
          | some (name, value) => (name, some value)
          | none => (String.ofList name, none)
        match r.long options name value with
        | .ok (r, awaiting) => arguments options commands awaiting r rest
        | .error stop => .error stop
      | '-' :: c :: cs =>
        match r.letters options (c :: cs) with
        | .ok r => arguments options commands false r rest
        | .error stop => .error stop
      | _ =>
        match awaiting, r.pending with
        | true, some (o, _) =>
          arguments options commands false { r with pending := some (o, some argument) } rest
        | _, _ => .error (.fault (stray commands argument))

end Reading

/-! ### Values from the environment -/

/-- The values that variables give to options which no argument gives. -/
def fromVariables (environment : Table String String) (taken : Table String String) :
    List ArgOption → Except Stop (Table String String)
  | [] => .ok []
  | o :: rest =>
    match if Table.has taken o.name then none else o.fromVariable.bind (Table.get? environment) with
    | none => fromVariables environment taken rest
    | some value =>
      if o.accepts value then (fromVariables environment taken rest).map ((o.name, value) :: ·)
      else .error (.fault (.badValue o.name value))

/-- The options of a command with their values: those of arguments and those of variables. -/
structure OptionValues where
  taken : Table String String := []
  fallback : Table String String := []

namespace OptionValues

/-- Ends a reading: stores the option read last and looks at the variables. -/
def ofReading (options : List ArgOption) (environment : Table String String) (r : Reading) :
    Except Stop OptionValues := do
  let r ← r.settle
  let fallback ← fromVariables environment r.taken options
  return ⟨r.taken, fallback⟩

/-- The values that arguments give to a command which has no commands of its own. -/
def parse (options : List ArgOption) (environment : Table String String) (arguments : List String) :
    Except Stop OptionValues := do
  let (r, _) ← Reading.arguments options [] false {} arguments
  ofReading options environment r

end OptionValues

end Groundwork.CommandLine
