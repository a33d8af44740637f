import Groundwork.CommandLine.Grammar

/-!
# Help and usage

What the program prints when it is asked for help or its version, and when its arguments are wrong.
-/

namespace Groundwork.CommandLine

/-! ### Help -/

/-- The version of the program. -/
def programVersion : String := "0.1.0"

/-- The name of the program. -/
def programName : String := "plinth"

/-- What the program does. -/
def programAbout : String := "Install, upgrade and remove a Kubernetes platform"

/-- The left column of an option. -/
def optionColumn (o : ArgOption) : String :=
  let letter := match o.letter with
    | some c => "-" ++ String.ofList [c] ++ ", "
    | none => "    "
  let value := match o.arity with
    | .switch => ""
    | .value label => " <" ++ label ++ ">"
    | .optionalValue label _ => " [<" ++ label ++ ">]"
  letter ++ "--" ++ o.name ++ value

/-- The right column of an option, with the variable that may hold its value. -/
def optionAbout (environment : Table String String) (o : ArgOption) : String :=
  match o.fromVariable with
  | some name => o.help ++ " [env: " ++ name ++ "=" ++ (Table.get? environment name).getD "" ++ "]"
  | none => o.help

/-- Rows of two columns. -/
def rows (entries : List (String × String)) : String :=
  let width := (entries.map fun e => e.1.length).foldl max 0
  String.join (entries.map fun e =>
    "  " ++ e.1 ++ Text.replicate (width - e.1.length) ' ' ++ "  " ++ e.2 ++ "\n")

/-- A section of options, if there are some. -/
def optionSection (environment : Table String String) (heading : String)
    (options : List ArgOption) : String :=
  if options.isEmpty then ""
  else "\n" ++ heading ++ ":\n"
    ++ rows (options.map fun o => (optionColumn o, optionAbout environment o))

/-- What the command that explains commands does. -/
def helpAbout : String := "Print this message or the help of the given subcommand(s)"

/-- How a topic is called. -/
def usageLine : Topic → String
  | .program => "Usage: plinth [OPTIONS] <COMMAND>"
  | .command c => "Usage: plinth " ++ c.word ++ " [OPTIONS]"
  | .help => "Usage: plinth help [COMMAND]"

/-- The rows of the commands. -/
def commandRows : String :=
  "\nCommands:\n"
    ++ rows (CommandName.all.map (fun c => (c.word, c.about)) ++ [(helpWord, helpAbout)])

/-- The help for a topic. -/
def helpText (declared : Settings) (environment : Table String String) (topic : Topic) : String :=
  let about := match topic with
    | .program => programAbout
    | .command c => c.about
    | .help => helpAbout
  let sections := match topic with
    | .program => commandRows ++ optionSection environment "Options" leadingOptions
    | .command c =>
      optionSection environment "Options"
          (c.ownOptions ++ commonOptions ++ [helpOption, versionOption])
        ++ optionSection environment settingsHeading (c.flags declared)
    | .help => "\nCommands:\n" ++ rows (CommandName.all.map (fun c => (c.word, c.about)))
  about ++ "\n\n" ++ usageLine topic ++ "\n" ++ sections

/-- The version of the program, or of one of its commands. -/
def versionText (c : Option CommandName) : String :=
  let name := match c with
    | some c => programName ++ "-" ++ c.word
    | none => programName
  name ++ " " ++ programVersion ++ "\n"

/-! ### Wrong arguments -/

/-- The words for a fault. -/
def UsageFault.message : UsageFault → String
  | .unknown argument => "unexpected argument '" ++ argument ++ "' found"
  | .missingValue name => "a value is required for '--" ++ name ++ "' but none was supplied"
  | .repeated name => "the argument '--" ++ name ++ "' cannot be used multiple times"
  | .unwantedValue name value =>
    "unexpected value '" ++ value ++ "' for '--" ++ name ++ "' found; no more were expected"
  | .badValue name value => "invalid value '" ++ value ++ "' for '--" ++ name ++ "'"
  | .unknownCommand name => "unrecognized subcommand '" ++ name ++ "'"
  | .missingCommand => "'plinth' requires a subcommand but one was not provided"
  | .noArguments => "no arguments"

/-- What is shown for a fault: the help where there are no arguments at all, else its words. -/
def usageText (environment : Table String String) (fault : UsageFault) : String :=
  match fault with
  | .noArguments => helpText ∅ environment .program
  | _ => "error: " ++ fault.message ++ "\n\nFor more information, try '--help'.\n"

end Groundwork.CommandLine
