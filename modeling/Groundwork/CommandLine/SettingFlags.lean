import Groundwork.CommandLine.Arguments
import Groundwork.Resolution

/-!
# Flags for settings

Every setting of a platform can be given on the command line.  Settings of one name share a flag,
which is declared by the first of them and feeds all of them.  Names that the program needs for
itself get no flag.
-/

namespace Groundwork.CommandLine

/-- The flags that the program needs for itself. -/
def reservedFlags : List String :=
  ["config", "help", "interactive", "timeout-multiplier", "verbose", "version"]

/-- The heading under which help lists the flags. -/
def settingsHeading : String := "Platform options"

/-- The line of help for a setting: the unit that sees it, what it is for, and its default. -/
def settingHelp (s : Setting) : String :=
  let unit := match s.scope with
    | .shared => ""
    | .unit id => "[" ++ id ++ "] "
  let about := if s.description.isEmpty then s.name else s.description
  let default := if s.default.isEmpty then "" else " [default: " ++ s.default.text ++ "]"
  unit ++ about ++ default

/-- How the flag of a setting takes its value. -/
def settingArity : Kind → Arity
  | .boolean => .optionalValue "BOOL" "true"
  | .integer => .value "INT"
  | .string => .value "VALUE"

/-- The flag that a setting declares. -/
def settingFlag (s : Setting) : ArgOption :=
  { name := Setting.flagName s.name
    arity := settingArity s.kind
    help := settingHelp s }

/-- The flags that settings declare, given the names of those before them. -/
def declareFlags : List String → List Setting → List ArgOption
  | _, [] => []
  | seen, s :: rest =>
    let flag := Setting.flagName s.name
    if reservedFlags.contains flag || seen.contains flag then declareFlags seen rest
    else settingFlag s :: declareFlags (flag :: seen) rest

/-- The flags of a platform's settings, in the order of the settings. -/
def settingFlags (ss : Settings) : List ArgOption :=
  declareFlags [] ss.entries

/-- The text that was given for a flag.  What the program's own options are given is read as a switch,
a number or a path, and is no text. -/
def OptionValues.text? (values : OptionValues) (flag : String) : Option String :=
  if reservedFlags.contains flag then none else Table.get? values.taken flag

/-- The texts that were given for settings, after those that were found for the settings before
them. -/
def collectTexts (text? : String → Option String) :
    List (String × String) → List Setting → List (String × String)
  | found, [] => found
  | found, s :: rest =>
    let flag := Setting.flagName s.name
    if Table.has found flag then collectTexts text? found rest
    else
      match text? flag with
      | some text => collectTexts text? (found ++ [(flag, text)]) rest
      | none => collectTexts text? found rest

/-- The flags with the texts that were given for them, each looked up by the name of a setting. -/
def flagTexts (ss : Settings) (text? : String → Option String) : Flags :=
  ⟨collectTexts text? [] ss.entries⟩

/-- The texts that the arguments give for settings. -/
def givenFlags (ss : Settings) (values : OptionValues) : Flags :=
  flagTexts ss values.text?

end Groundwork.CommandLine
