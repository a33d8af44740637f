import Groundwork.CommandLine.SettingFlags
import Groundwork.Text.Decimal

/-!
# The arguments of the program

Four commands, options that every command takes, and the flags of the settings on the two commands
that apply a platform.  The options that every command takes may stand before the command, too; what
the command's own arguments say counts first.
-/

namespace Groundwork.CommandLine

/-! ### Options -/

/-- The largest multiplier. -/
def largestMultiplier : Int := 4294967295

/-- The multiplier that a text writes. -/
def multiplier? (s : String) : Option UInt32 :=
  (Text.readInt64? s).bind fun n =>
    if 1 ≤ n.toInt ∧ n.toInt ≤ largestMultiplier then some n.toInt.toNat.toUInt32 else none

/-- The options that every command takes. -/
def commonOptions : List ArgOption :=
  [{ name := "config"
     arity := .value "FILE"
     fromVariable := some "PLINTH_CONFIG"
     accepts := fun s => !s.isEmpty
     help := "Platform catalog to use instead of the built-in one" },
   { name := "verbose"
     letter := some 'v'
     help := "Show detailed progress and debug logs" },
   { name := "timeout-multiplier"
     arity := .value "TIMEOUT_MULTIPLIER"
     fromVariable := some "PLINTH_TIMEOUT_MULTIPLIER"
     accepts := fun s => (multiplier? s).isSome
     help := "Scale every wait, for slow clusters" }]

/-- The option that asks for help. -/
def helpOption : ArgOption :=
  { name := "help", letter := some 'h', purpose := .help, help := "Print help" }

/-- The option that asks for the version. -/
def versionOption : ArgOption :=
  { name := "version", letter := some 'V', purpose := .version, help := "Print version" }

/-- The option that makes a dialogue of the settings. -/
def interactiveOption : ArgOption :=
  { name := "interactive"
    letter := some 'i'
    help := "Prompt for every option not given as a flag" }

/-- The option that leaves out the question before everything is removed. -/
def yesOption : ArgOption :=
  { name := "yes", letter := some 'y', help := "Do not ask for confirmation" }

/-! ### Commands -/

/-- What the program can be asked to do. -/
inductive CommandName where
  | install
  | upgrade
  | uninstall
  | info
  deriving DecidableEq

namespace CommandName

/-- All commands, in the order in which help lists them. -/
def all : List CommandName := [.install, .upgrade, .uninstall, .info]

/-- The word for a command. -/
def word : CommandName → String
  | .install => "install"
  | .upgrade => "upgrade"
  | .uninstall => "uninstall"
  | .info => "info"

/-- The command of a word. -/
def ofWord? (s : String) : Option CommandName :=
  all.find? fun c => c.word = s

/-- What a command does. -/
def about : CommandName → String
  | .install => "Install the platform on the current cluster"
  | .upgrade => "Upgrade an existing installation"
  | .uninstall => "Remove the platform, last installed unit first"
  | .info => "Show cluster information and the state of every unit"

/-- The options that only this command takes. -/
def ownOptions : CommandName → List ArgOption
  | .install => [interactiveOption]
  | .upgrade => [interactiveOption]
  | .uninstall => [yesOption]
  | .info => []

/-- The flags of settings that a command takes. -/
def flags (declared : Settings) : CommandName → List ArgOption
  | .install => settingFlags declared
  | .upgrade => settingFlags declared
  | _ => []

/-- Everything that a command takes. -/
def options (declared : Settings) (c : CommandName) : List ArgOption :=
  c.ownOptions ++ commonOptions ++ [helpOption, versionOption] ++ c.flags declared

end CommandName

/-- The command that explains commands. -/
def helpWord : String := "help"

/-- The words that may stand in place of a command. -/
def commandWords : List String := CommandName.all.map CommandName.word ++ [helpWord]

/-- What the options in front of the command may be. -/
def leadingOptions : List ArgOption :=
  commonOptions ++ [helpOption, versionOption]

/-! ### Reading the arguments -/

/-- A topic of help. -/
inductive Topic where
  | program
  | command (name : CommandName)
  /-- The command that explains commands. -/
  | help
  deriving DecidableEq

/-- What the arguments ask for. -/
inductive Wish where
  | run (command : CommandName) (leading own : OptionValues)
  | help (topic : Topic)
  | version (command : Option CommandName)

/-- What `help` explains, given the words after it. -/
def helpTopic : List String → Except UsageFault Topic
  | [] => .ok .program
  | word :: rest =>
    let topic :=
      if word = helpWord then some Topic.help else (CommandName.ofWord? word).map Topic.command
    match topic, rest with
    | none, _ => .error (.unknownCommand word)
    | some t, [] => .ok t
    | some _, next :: _ => .error (.unknownCommand next)

/-- The wish of a reading that has ended early. -/
def wishOfStop (topic : Topic) (command : Option CommandName) : Stop → Except UsageFault Wish
  | .fault fault => .error fault
  | .help => .ok (.help topic)
  | .version => .ok (.version command)

/-- Reads the arguments of a command, and then the rest of what stands before it. -/
def wishOfCommand (declared : Settings) (environment : Table String String) (leading : Reading)
    (c : CommandName) (arguments : List String) : Except UsageFault Wish :=
  match OptionValues.parse (c.options declared) environment arguments with
  | .error stop => wishOfStop (.command c) (some c) stop
  | .ok own =>
    match OptionValues.ofReading leadingOptions environment leading with
    | .error stop => wishOfStop .program none stop
    | .ok leading => .ok (.run c leading own)

/-- Ends a reading in which there is no command. -/
def wishOfNothing (environment : Table String String) (leading : Reading)
    (arguments : List String) : Except UsageFault Wish :=
  match OptionValues.ofReading leadingOptions environment leading with
  | .error stop => wishOfStop .program none stop
  | .ok _ => .error (if arguments.isEmpty then .noArguments else .missingCommand)

/-- What arguments ask for, given the settings of the platform. -/
def wish (declared : Settings) (environment : Table String String) (arguments : List String) :
    Except UsageFault Wish :=
  match Reading.arguments leadingOptions commandWords false {} arguments with
  | .error stop => wishOfStop .program none stop
  | .ok (leading, none) => wishOfNothing environment leading arguments
  | .ok (leading, some (word, rest)) =>
    match CommandName.ofWord? word with
    | some c => wishOfCommand declared environment leading c rest
    | none => (helpTopic rest).map Wish.help

/-- The value of an option that may stand before the command and after it. -/
def commonValue? (leading own : OptionValues) (name : String) : Option String :=
  (Table.get? own.taken name).or ((Table.get? leading.taken name).or
    (Table.get? own.fallback name))

end Groundwork.CommandLine
