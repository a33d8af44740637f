import Groundwork.Cluster.Rest
import Groundwork.Cluster.Scenario
import Groundwork.Command.Recorder
import Groundwork.Engine

/-!
# Rehearsals

The engine played against a cluster in memory and recorded commands.  Time passes only while the
engine sleeps.
-/

namespace Groundwork

/-- How the engine reaches the cluster. -/
inductive Connection where
  /-- Its calls are answered by the cluster itself. -/
  | direct
  /-- An API server stands in front of the cluster and reports the failures of calls. -/
  | served
  /-- Not at all, for this reason. -/
  | broken (fault : ApiFault)

/-- What the engine sees of the outcome of a call. -/
def Connection.shown (connection : Connection) (c : Cluster.Call)
    (found : Except DeployError c.Found) : Except DeployError c.Found :=
  match connection, found with
  | .served, .error (.api (.refused status)) =>
    c.refusal (.refused { status with status := "Failure" })
  | _, _ => found

/-- Whether a call gets as far as the cluster: in front of a server it has to be a request. -/
def Connection.admits (connection : Connection) (c : Cluster.Call) : Bool :=
  match connection with
  | .served => c.request?.isSome
  | _ => true

/-- Everything outside the engine in a rehearsal. -/
structure Rehearsal where
  /-- The nanoseconds since the beginning. -/
  clock : Nat := 0
  connection : Connection := .direct
  scenario : Cluster.Scenario := {}
  recorder : Recorder := {}
  ui : Ui := {}
  /-- The notes left so far. -/
  notes : List String := []
  /-- Whether lines are printed in colours. -/
  colors : Bool := false
  /-- What has been printed so far. -/
  printed : List String := []

instance : Inhabited Rehearsal := ⟨{}⟩

namespace Rehearsal

/-- The pause that stands for one which no deadline can hold: thirty years. -/
def longestPause : Duration := .ofSeconds (86400 * 365 * 30)

/-- Lets time pass. -/
def sleep (time : Duration) (r : Rehearsal) : Rehearsal :=
  let time := if time.seconds < Wait.endlessSeconds then time else longestPause
  { r with clock := r.clock + time.ns }

/-- Answers an action. -/
def answer : (a : Action) → Rehearsal → a.Answer × Rehearsal
  | .connect, r =>
    match r.connection with
    | .broken fault => (.error (.api fault), r)
    | _ => (.ok (), r)
  | .call c, r =>
    if r.connection.admits c then
      let (found, scenario) := r.scenario.answer r.clock c
      (r.connection.shown c found, { r with scenario })
    else (.error (.api Cluster.Call.unwritable), r)
  | .run i, r =>
    let (output, recorder) := r.recorder.run i
    (output, { r with recorder })
  | .say level text, r =>
    let printed :=
      if r.ui.drops level then r.printed else r.printed ++ [level.printed r.colors text ++ "\n"]
    ((), { r with ui := r.ui.say level text, printed })
  | .print text, r => ((), { r with printed := r.printed ++ [text] })
  | .note entry, r => ((), { r with notes := r.notes ++ [entry] })

/-- The outside as the engine sees it. -/
def world : Script.World Action Action.Answer Rehearsal where
  answer := answer
  sleep := sleep

/-- How many looks a wait without end may take. -/
def patience : Nat := 1000000

/-- Plays a script. -/
def play {ε α : Type} (script : Script Action Action.Answer ε α) (r : Rehearsal) :
    Option (Except ε α) × Rehearsal :=
  Script.run world patience script r

end Rehearsal

end Groundwork
