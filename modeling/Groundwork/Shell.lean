import Groundwork.Shell.Session

/-!
# A small shell

Runs commands without starting any process, so that they can be rehearsed: scripts of the shell and
the small tools that they are made of.  All files are those of a tree.
-/

namespace Groundwork.Shell

/-- The programs that can be started. -/
def programs : List String :=
  ["sh", "true", "false", "cat", "echo", "printf", "tr", "wc", "head", "tail", "sort", "seq", "yes",
    "basename", "ls", "sleep", "test"]

/-- The fault of a directory in which nothing can be started. -/
def directoryFault? (files : FileTree) : Option String → Option IoFault
  | none => none
  | some d =>
    match files.find d with
    | .error fault => some fault
    | .ok (.file _) => some .notDirectory
    | .ok _ => none

/-- Whether a text holds the character that no argument may hold. -/
def hasNul (s : String) : Bool := s.toList.contains '\x00'

/-- The fault of starting a program that is none of these. -/
def startFault (w : Workplace) (program : String) : IoFault :=
  if program.toList.contains '/' then
    match w.find program with
    | .error fault => fault
    | .ok _ => .accessDenied
  else .noEntry

/-- Runs the shell with arguments. -/
def runShell (w : Workplace) (input : List UInt8) (args : List String) : FinishedProcess :=
  let s : Session := { place := w, input }
  match args with
  | "-c" :: script :: rest =>
    { s with parameters := if rest.isEmpty then ["sh"] else rest }.ofScript script
  | [] => { s with input := [] }.ofScript (Text.decodeLossy input)
  | name :: _ =>
    match w.content 0 name with
    | .ok content => { s with parameters := args }.ofScript (Text.decodeLossy content)
    | .error _ =>
      { s.complain ("cannot open " ++ name ++ ": No such file") with status := 2 }.finished

/-- Runs an invocation. -/
def run (files : FileTree) (i : Invocation) : Except IoFault CommandOutput := do
  if hasNul i.program || i.args.any hasNul then throw (.other "nul byte found in provided data")
  match directoryFault? files i.directory with
  | some fault => throw fault
  | none => pure ()
  let w : Workplace := { files, directory := i.directory.getD "" }
  if !programs.contains i.program then throw (startFault w i.program)
  let input := Text.utf8Bytes (i.stdin.getD "")
  if i.program = "sh" then return (runShell w input i.args).report
  let result := (runTool w input i.program i.args).getD { status := 1 }
  return (FinishedProcess.mk (.exited result.status) result.output result.errors).report

end Groundwork.Shell
