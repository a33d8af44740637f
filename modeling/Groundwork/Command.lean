import Groundwork.Text.Search

/-!
# Commands

The programs that do the work on a platform are black boxes: an invocation goes in, and an exit
code and the output come out.
-/

namespace Groundwork

/-- A program to run. -/
structure Invocation where
  program : String
  args : List String := []
  /-- What the program reads. -/
  stdin : Option String := none
  /-- Where it runs. -/
  directory : Option String := none
  deriving DecidableEq

/-- The program and its arguments on one line. -/
def Invocation.line (i : Invocation) : String :=
  Text.join " " (i.program :: i.args)

/-- What a program has done. -/
structure CommandOutput where
  success : Bool
  /-- The exit code; -1 if the program was killed. -/
  code : Int
  /-- What it wrote. -/
  output : String
  deriving DecidableEq

namespace CommandOutput

/-- The output of a program that succeeds. -/
def ok (output : String) : CommandOutput := ⟨true, 0, output⟩

/-- The output of a program that fails. -/
def failed (code : Int) (output : String) : CommandOutput := ⟨false, code, output⟩

/-- Whether the output holds one of these texts. -/
def mentions (o : CommandOutput) (texts : List String) : Bool :=
  texts.any fun t => Text.contains o.output t

end CommandOutput

end Groundwork
