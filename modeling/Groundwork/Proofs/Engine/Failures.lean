import Groundwork.Component.Ingress
import Groundwork.Proofs.Script.Failure

/-!
# Whose errors about settings they are

A script `PassesOn` errors about settings if it makes none of its own: whenever it fails with one,
the outside has answered it with that error.  This is so of everything that the engine does after a
command was built: running the command, the waits for what it has started, and the looks at what
went wrong.
-/

namespace Groundwork

open Script

/-- The action was answered with this error. -/
def Action.Reports : (a : Action) → a.Answer → DeployError → Prop
  | .connect, answer, e => answer = (.error e : Except DeployError Unit)
  | .call c, answer, e => answer = (.error e : Except DeployError c.Found)
  | .run _, answer, e => answer = (.error e : Except DeployError CommandOutput)
  | .say _ _, _, _ => False
  | .print _, _, _ => False
  | .note _, _, _ => False

namespace Engine

variable {α β : Type}

/-- Errors about settings are none of its own: it only passes on what it is answered. -/
def PassesOn (s : Engine α) : Prop :=
  FailsOnly Action.Reports (fun e => ∀ x, e.root ≠ .setup x) s

theorem passesOn_call (c : Cluster.Call) : PassesOn (call c) :=
  fun _ => .ofExcept fun _ he => Or.inr he

theorem passesOn_run (i : Invocation) : PassesOn (run i) :=
  fun _ => .ofExcept fun _ he => Or.inr he

theorem passesOn_say (level : Level) (text : String) : PassesOn (say level text) :=
  fun _ => trivial

/-- A wait makes an error about settings only if its judge does. -/
theorem passesOn_pollUntil {budget : Duration} {c : Cluster.Call}
    {judge : c.Found → Except DeployError Bool}
    (h : ∀ found e, judge found = .error e → ∀ x, e.root ≠ .setup x) :
    PassesOn (pollUntil budget c judge) := by
  apply FailsOnly.pollUntil
  · intro answer e he
    cases answer with
    | ok found => exact Or.inl (h found e he)
    | error e' =>
      cases he
      exact Or.inr rfl
  · intro x hx
    cases hx

theorem passesOn_runChecked (i : Invocation) (benign : List String) :
    PassesOn (runChecked i benign) := by
  apply (passesOn_run i).andThen
  intro o
  apply FailsOnly.ofExcept
  intro e he x hx
  unfold judgeOutput at he
  split at he
  · cases he
  · cases he
    cases hx

theorem passesOn_runRetried (policy : RetryPolicy) (i : Invocation) :
    PassesOn (runRetried policy i) :=
  FailsOnly.retryIf (fun _ => trivial) (passesOn_runChecked i [])

end Engine

open Engine

/-! ### Waiting -/

namespace Cluster

/-- An error about a pod that is not ready is about the pod, whatever it came from. -/
theorem passesOn_awaitPod (namespaceName name : String) (budget : Duration) :
    PassesOn (awaitPod namespaceName name budget) := by
  refine FailsOnly.handle (passesOn_pollUntil fun _ _ he => nomatch he) (fun _ => trivial) ?_
  intro e
  have hevents : PassesOn (describeEvents namespaceName name) :=
    FailsOnly.handle (passesOn_call _) (fun _ => trivial) fun _ => trivial
  apply (FailsOnly.mono hevents fun _ => Or.inl).andThen
  intro events
  refine Or.inl fun x hx => ?_
  cases hx

theorem passesOn_awaitAnyPod (namespaceName selector : String) (budget : Duration) :
    PassesOn (awaitAnyPod namespaceName selector budget) :=
  passesOn_pollUntil fun _ _ he => nomatch he

theorem passesOn_awaitEach (namespaceName : String) (budget : Duration) (pods : List Pod) :
    PassesOn (awaitEach namespaceName budget pods) := by
  induction pods with
  | nil => trivial
  | cons pod rest ih =>
    rcases pod with ⟨_, _ | name, _, _⟩
    · exact ih
    · exact (passesOn_awaitPod _ _ _).andThen fun _ => ih

theorem passesOn_awaitPods (namespaceName selector : String) (budget : Duration) :
    PassesOn (awaitPods namespaceName selector budget) := by
  apply (passesOn_call _).andThen
  intro pods
  split
  · intro x hx
    cases hx
  · exact passesOn_awaitEach _ _ _

theorem passesOn_awaitCrd (name : String) (budget : Duration) : PassesOn (awaitCrd name budget) :=
  passesOn_pollUntil fun _ _ he => nomatch he

theorem passesOn_awaitAddress (namespaceName name : String) (budget : Duration) :
    PassesOn (awaitAddress namespaceName name budget) := by
  have hoverdue : ∀ e, (∀ x, (addressOverdue namespaceName name e).root ≠ .setup x) ∨
      addressOverdue namespaceName name e = e := by
    intro e
    unfold addressOverdue
    split
    · exact Or.inl fun x hx => nomatch hx
    · exact Or.inr rfl
  have hwait : PassesOn ((pollUntil budget (.getService namespaceName name)
      fun service => .ok (service.bind Service.address?).isSome).mapError
        (addressOverdue namespaceName name)) :=
    FailsOnly.handle (passesOn_pollUntil fun _ _ he => nomatch he) (fun _ => trivial) hoverdue
  apply hwait.andThen
  intro _
  apply (passesOn_call _).andThen
  intro service
  split
  · trivial
  · intro x hx
    cases hx

end Cluster

open Cluster

/-! ### Units -/

namespace ChartUnit

variable (u : ChartUnit)

theorem passesOn_awaitSelectors (budget : Duration) (selectors : List String) :
    PassesOn (u.awaitSelectors budget selectors) := by
  induction selectors with
  | nil => trivial
  | cons selector rest ih =>
    exact (passesOn_say _ _).andThen fun _ => (passesOn_awaitAnyPod _ _ _).andThen fun _ =>
      (passesOn_awaitPods _ _ _).andThen fun _ => ih

theorem passesOn_awaitCrds (budget : Duration) (crds : List String) :
    PassesOn (awaitCrds budget crds) := by
  induction crds with
  | nil => trivial
  | cons crd rest ih =>
    exact (passesOn_say _ _).andThen fun _ => (passesOn_awaitCrd _ _).andThen fun _ => ih

theorem passesOn_awaitReady : PassesOn u.awaitReady :=
  (u.passesOn_awaitSelectors _ _).andThen fun _ => passesOn_awaitCrds _ _

end ChartUnit

theorem IngressUnit.passesOn_awaitReachable (u : IngressUnit) : PassesOn u.awaitReachable :=
  (passesOn_say _ _).andThen fun _ => (passesOn_awaitAddress _ _ _).andThen fun _ =>
    passesOn_say _ _

end Groundwork
