import Groundwork.Command
import Groundwork.DeployError
import Groundwork.Table

/-!
# Recorded commands

A stand-in for the programs: it writes down what it is asked to run and answers by rules.  A rule
is for the commands whose line holds a text.  A sequence gives its answers one after the other;
the sequences come before the standing rules, and a command without a rule succeeds in silence.
Where it is said which programs are installed, each of these always does the same, and no other
program can be started.
-/

namespace Groundwork

/-- Answers given one after the other to the commands whose line holds a text. -/
structure AnswerSequence where
  pattern : String
  answers : List (Except DeployError CommandOutput)

/-- A stand-in for the programs. -/
structure Recorder where
  rules : List (String × CommandOutput) := []
  sequences : List AnswerSequence := []
  /-- What the installed programs do, if it is said which are installed. -/
  installed : Option (Table String CommandOutput) := none
  /-- What has been run so far. -/
  calls : List Invocation := []
  deriving Inhabited

namespace Recorder

/-- The answer of the standing rules: that of the first one for the line. -/
def ruled (r : Recorder) (line : String) : CommandOutput :=
  match r.rules.find? fun rule => Text.contains line rule.1 with
  | some rule => rule.2
  | none => .ok ""

/-- The next answer of the first sequence for the line that has one left, and the sequences after
that. -/
def takeAnswer (line : String) :
    List AnswerSequence → Option (Except DeployError CommandOutput × List AnswerSequence)
  | [] => none
  | s :: rest =>
    if Text.contains line s.pattern then
      match s.answers with
      | a :: others => some (a, { s with answers := others } :: rest)
      | [] => (takeAnswer line rest).map fun r => (r.1, s :: r.2)
    else (takeAnswer line rest).map fun r => (r.1, s :: r.2)

/-- The recorder with one more call. -/
def note (r : Recorder) (i : Invocation) : Recorder :=
  { r with calls := r.calls ++ [i] }

/-- Answers a command by the sequences and the rules. -/
def answer (i : Invocation) (r : Recorder) : Except DeployError CommandOutput × Recorder :=
  match takeAnswer i.line r.sequences with
  | some (a, sequences) => (a, { r with sequences }.note i)
  | none => (.ok (r.ruled i.line), r.note i)

/-- Runs a command. -/
def run (i : Invocation) (r : Recorder) : Except DeployError CommandOutput × Recorder :=
  match r.installed with
  | none => r.answer i
  | some programs =>
    match Table.get? programs i.program with
    | some output => (.ok output, r.note i)
    | none => (.error (.io .noEntry), r)

end Recorder

end Groundwork
