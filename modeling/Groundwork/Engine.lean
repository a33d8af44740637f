import Groundwork.Cluster.Call
import Groundwork.Command
import Groundwork.DeployError
import Groundwork.Script.Patterns
import Groundwork.Text.Blank
import Groundwork.Ui

/-!
# The engine's actions

What the engine can do on the outside: connect to the cluster and call it, run a command, tell the
user something, and leave a note for whoever watches the run.  Connecting, cluster calls and
commands may fail.
-/

namespace Groundwork

open Cluster

/-- One action on the outside. -/
inductive Action where
  | connect
  | call (call : Call)
  | run (invocation : Invocation)
  | say (level : Level) (text : String)
  /-- Prints a text as it is. -/
  | print (text : String)
  | note (entry : String)

/-- What an action gives back. -/
abbrev Action.Answer : Action → Type
  | .connect => Except DeployError Unit
  | .call c => Except DeployError c.Found
  | .run _ => Except DeployError CommandOutput
  | .say _ _ => Unit
  | .print _ => Unit
  | .note _ => Unit

/-- A script of such actions. -/
abbrev Engine (α : Type) : Type := Script Action Action.Answer DeployError α

namespace Engine

/-- Calls the cluster. -/
def call (c : Call) : Engine c.Found :=
  .ask (.call c) Script.ofExcept

/-- Runs a command.  A program that fails is no error yet. -/
def run (i : Invocation) : Engine CommandOutput :=
  .ask (.run i) Script.ofExcept

/-- Tells the user something. -/
def say (level : Level) (text : String) : Engine Unit :=
  .ask (.say level text) fun _ => .done ()

/-- Leaves a note. -/
def note (entry : String) : Engine Unit :=
  .ask (.note entry) fun _ => .done ()

/-- Goes on with a value of the setup. -/
def ofSetup {α : Type} : Except SetupError α → Engine α
  | .ok a => .done a
  | .error e => .fail (.setup e)

/-! ### Waiting -/

/-- The pause between two looks at the cluster. -/
def pollInterval : Duration := .ofSeconds 1

/-- Looks at the cluster once in every interval until `judge` says yes or fails; fails when the
budget is used up. -/
def pollUntil (budget : Duration) (c : Call) (judge : c.Found → Except DeployError Bool) :
    Engine Unit :=
  Script.pollUntil (Wait.within pollInterval budget) (.call c)
    (fun answer : Except DeployError c.Found => answer.bind judge) (.timeout budget)

/-- Texts that show that a failure will pass: something is still starting. -/
def transientTexts : List String :=
  ["x509", "tls: ", "failed calling webhook", "EOF", "connection refused",
    "connection reset by peer"]

/-- Whether a message is that of a failure that will pass. -/
def isTransient (message : String) : Bool :=
  transientTexts.any fun t => Text.contains message t

/-! ### Commands -/

/-- The error of a command that failed. -/
def commandError (i : Invocation) (o : CommandOutput) : DeployError :=
  .command i.line o.code (Text.trimEnd o.output)

/-- Judges what a command has done.  A failure is an error, unless its output holds one of the
benign texts. -/
def judgeOutput (i : Invocation) (benign : List String) (o : CommandOutput) :
    Except DeployError CommandOutput :=
  if o.success || o.mentions benign then .ok o else .error (commandError i o)

/-- Runs a command and fails if it fails, unless its output holds one of the benign texts. -/
def runChecked (i : Invocation) (benign : List String) : Engine CommandOutput :=
  (run i).andThen fun o => Script.ofExcept (judgeOutput i benign o)

/-- Runs a command, again while its failure looks as if it will pass. -/
def runRetried (policy : RetryPolicy) (i : Invocation) : Engine CommandOutput :=
  Script.retryIf policy (fun e => .done (isTransient e.message)) (runChecked i [])

end Engine

end Groundwork
