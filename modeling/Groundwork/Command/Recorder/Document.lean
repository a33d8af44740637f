import Groundwork.Command.Recorder
import Groundwork.DeployError.Document

/-!
# Recorders as documents

How the answers of a recorder are written down: a list of rules, and a list of sequences whose
answers are outputs or errors.
-/

namespace Groundwork

/-- The invocation of a document. -/
def Invocation.ofJson (j : Json) : Invocation :=
  { program := j.textAt "program"
    args := j.textsAt "args"
    stdin := j.text? "stdin"
    directory := j.text? "dir" }

/-- The output of a document; the exit code 0 is that of success. -/
def CommandOutput.ofJson (j : Json) : CommandOutput :=
  let code := j.intAt "code"
  ⟨code == 0, code, j.textAt "output"⟩

/-- The answer of a document. -/
def Recorder.answerOf (j : Json) : Except DeployError CommandOutput :=
  match (j.getD "error").unlessNull with
  | some e => .error ((DeployError.ofJson? e).getD .cancelled)
  | none => .ok (CommandOutput.ofJson j)

/-- The recorder of a document. -/
def Recorder.ofJson (j : Json) : Recorder :=
  { rules := (j.itemsAt "responses").map fun r => (r.textAt "pattern", CommandOutput.ofJson r)
    sequences := (j.itemsAt "sequences").map fun s =>
      ⟨s.textAt "pattern", (s.itemsAt "answers").map answerOf⟩ }

end Groundwork
