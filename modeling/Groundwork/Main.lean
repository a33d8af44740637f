import Groundwork.CommandLine.Program

/-!
# The program itself

Reads the arguments, the environment, the catalog and the user's answers, and prints what the
program says.  No connection to a cluster comes with it, so connecting always fails.
-/

namespace Groundwork

/-- The fault of a file that cannot be read. -/
def faultOfError : IO.Error → IoFault
  | .noFileOrDirectory .. => .noEntry
  | .permissionDenied .. => .accessDenied
  | .inappropriateType .. => .isDirectory
  | e => .other (toString e)

/-- The text of a file. -/
def readFileText (path : String) : IO (Except IoFault String) := do
  try
    let bytes ← IO.FS.readBinFile path
    match Text.decode? bytes.toList with
    | some s => return .ok s
    | none => return .error .notText
  catch e => return .error (faultOfError e)

/-- The variables of the environment that are set. -/
def readEnvironment : List String → IO (Table String String)
  | [] => return []
  | name :: rest => do
    let others ← readEnvironment rest
    match ← IO.getEnv name with
    | some value => return (name, value) :: others
    | none => return others

/-- Everything that the user types. -/
def readInput : IO (List UInt8) := do
  return (← (← IO.getStdin).readBinToEnd).toList

/-- Whether texts are printed in colours. -/
def showsColors : IO Bool := do
  return (← (← IO.getStdout).isTty) && (← IO.getEnv "NO_COLOR").isNone

end Groundwork

open Groundwork CommandLine in
/-- Runs the program and gives its exit code. -/
def main (arguments : List String) : IO UInt32 := do
  let environment ← readEnvironment (commonOptions.filterMap ArgOption.fromVariable)
  let content ← match configPath? environment arguments with
    | some path => readFileText path
    | none => pure (.error .noEntry)
  let readText (_ : String) : Except IoFault String := content
  let begin : Start := { arguments, environment, terminal := { colors := ← showsColors } }
  let asks := match start readText begin with
    | .ok ready => ready.asks
    | .error _ => false
  let input ← if asks then readInput else pure []
  let begin := { begin with terminal := { begin.terminal with input } }
  let outside : Rehearsal :=
    { connection := .broken (.unusable "no connection to a cluster")
      colors := begin.terminal.colors }
  match (rehearse readText begin outside).1 with
  | some finish =>
    IO.print finish.printed
    IO.eprint finish.reported
    return UInt32.ofNat finish.code
  | none => return 1
