import Groundwork.Command
import Groundwork.Text.Utf8

/-!
# Finished processes

What is left of a process that has ended, and how it is reported: what it wrote to its output comes
before what it wrote to its error output, and bytes that are no text are replaced.
-/

namespace Groundwork

/-- How a process has ended. -/
inductive ProcessEnd where
  | exited (status : UInt8)
  /-- By a signal. -/
  | killed
  deriving DecidableEq

/-- A process that has ended. -/
structure FinishedProcess where
  ending : ProcessEnd
  output : List UInt8
  errors : List UInt8

namespace FinishedProcess

/-- The exit code; -1 for a process that was killed. -/
def code (p : FinishedProcess) : Int :=
  match p.ending with
  | .exited status => status.toNat
  | .killed => -1

/-- What is reported of a process. -/
def report (p : FinishedProcess) : CommandOutput :=
  { success := p.ending == .exited 0
    code := p.code
    output := Text.decodeLossy p.output ++ Text.decodeLossy p.errors }

end FinishedProcess

end Groundwork
