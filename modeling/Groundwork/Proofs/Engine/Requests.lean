import Groundwork.Component.Ingress
import Groundwork.Proofs.Script.Run

/-!
# What the engine asks

An action `OnlyLooks` if it creates nothing, deletes nothing and runs no command, and it
`LooksAtObjects` if besides it does not look at namespaces.  The waits for pods, resource
definitions, namespaces and addresses, the guards and the look at the platform only look; applying a
unit looks at its workload and runs commands (`asksOnly_apply_of`).  These facts hold whatever the
outside answers, and they are all that is needed of the waits where only changes matter.
-/

namespace Groundwork

open Script

/-- The action changes nothing outside: it talks, or it calls the cluster only to look. -/
def Action.OnlyLooks : Action → Prop
  | .call (.createNamespace _ _) => False
  | .call (.deleteNamespace _) => False
  | .run _ => False
  | _ => True

/-- The action talks, or it looks at objects other than namespaces. -/
def Action.LooksAtObjects : Action → Prop
  | .connect => False
  | .call (.getNamespace _) => False
  | a => a.OnlyLooks

theorem Action.LooksAtObjects.onlyLooks {a : Action} (h : a.LooksAtObjects) : a.OnlyLooks := by
  cases a with
  | call c => cases c <;> first | exact h.elim | trivial
  | run i => exact h.elim
  | connect => trivial
  | say level text => trivial
  | print text => trivial
  | note entry => trivial

/-- The action talks, or it looks at pods, their events or resource definitions. -/
def Action.LooksAtWorkload : Action → Prop
  | .say _ _ => True
  | .call (.listPods _ _) => True
  | .call (.getPod _ _) => True
  | .call (.listEvents _ _) => True
  | .call (.getCrd _) => True
  | _ => False

theorem Action.LooksAtWorkload.looksAtObjects :
    ∀ {a : Action}, a.LooksAtWorkload → a.LooksAtObjects
  | .say _ _, _ => trivial
  | .call (.listPods _ _), _ => trivial
  | .call (.getPod _ _), _ => trivial
  | .call (.listEvents _ _), _ => trivial
  | .call (.getCrd _), _ => trivial

/-- The action looks, or it runs a command. -/
def Action.LooksOrRuns (a : Action) : Prop :=
  a.OnlyLooks ∨ ∃ i, a = .run i

namespace Engine

variable {P : Action → Prop} {α : Type}

theorem looksOrRuns_of_onlyLooks {s : Engine α} (h : AsksOnly Action.OnlyLooks s) :
    AsksOnly Action.LooksOrRuns s :=
  h.mono fun _ => Or.inl

theorem asksOnly_call {c : Cluster.Call} (h : P (.call c)) : AsksOnly P (call c) :=
  ⟨h, fun answer => .ofExcept answer⟩

theorem asksOnly_run {i : Invocation} (h : P (.run i)) : AsksOnly P (run i) :=
  ⟨h, fun answer => .ofExcept answer⟩

theorem asksOnly_say (level : Level) (text : String) : AsksOnly Action.OnlyLooks (say level text) :=
  ⟨trivial, fun _ => trivial⟩

theorem looksAtObjects_say (level : Level) (text : String) :
    AsksOnly Action.LooksAtObjects (say level text) :=
  ⟨trivial, fun _ => trivial⟩

theorem onlyLooks_of_looksAtObjects {s : Engine α} (h : AsksOnly Action.LooksAtObjects s) :
    AsksOnly Action.OnlyLooks s :=
  h.mono fun _ => Action.LooksAtObjects.onlyLooks

theorem asksOnly_ofSetup (x : Except SetupError α) : AsksOnly P (ofSetup x) := by
  cases x <;> trivial

theorem asksOnly_pollUntil {budget : Duration} {c : Cluster.Call}
    {judge : c.Found → Except DeployError Bool} (h : P (.call c)) :
    AsksOnly P (pollUntil budget c judge) :=
  .pollUntil h

theorem asksOnly_runChecked {i : Invocation} {benign : List String} (h : P (.run i)) :
    AsksOnly P (runChecked i benign) :=
  (asksOnly_run h).andThen fun _ => .ofExcept _

theorem asksOnly_runRetried {policy : RetryPolicy} {i : Invocation} (h : P (.run i)) :
    AsksOnly P (runRetried policy i) := by
  apply AsksOnly.retryIf
  · intro e
    trivial
  · exact asksOnly_runChecked h

end Engine

namespace Cluster

/-! ### Looking -/

section Looking

variable {P : Action → Prop} {id : String}

theorem asksOnly_readState (h : P (.call (.getNamespace id))) :
    AsksOnly P (NamespaceState.read id) := by
  apply (Engine.asksOnly_call h).andThen
  intro found
  trivial

theorem asksOnly_guardInstall (h : P (.call (.getNamespace id))) :
    AsksOnly P (guardInstall id) := by
  apply (asksOnly_readState h).andThen
  intro state
  cases state <;> trivial

theorem asksOnly_guardUpgrade (h : P (.call (.getNamespace id))) :
    AsksOnly P (guardUpgrade id) := by
  apply (asksOnly_readState h).andThen
  intro state
  cases state <;> trivial

theorem asksOnly_guardRemove (id : String) : AsksOnly Action.OnlyLooks (guardRemove id) := by
  apply (asksOnly_readState trivial).andThen
  intro state
  cases state with
  | owned => trivial
  | absent => exact (Engine.asksOnly_say _ _).andThen fun _ => trivial
  | foreign => exact (Engine.asksOnly_say _ _).andThen fun _ => trivial

theorem asksOnly_readFacts (hnodes : P (.call .listNodes)) (hversion : P (.call .serverVersion)) :
    AsksOnly P readFacts :=
  (Engine.asksOnly_call hnodes).andThen fun _ =>
    (Engine.asksOnly_call hversion).andThen fun _ => trivial

end Looking

/-! ### Waiting -/

section Waiting

variable {P : Action → Prop} {namespaceName name selector : String} {budget : Duration}

theorem asksOnly_describeEvents (h : P (.call (.listEvents namespaceName name))) :
    AsksOnly P (describeEvents namespaceName name) :=
  (Engine.asksOnly_call h).handle fun _ => trivial

theorem asksOnly_awaitPod (hpod : P (.call (.getPod namespaceName name)))
    (hevents : P (.call (.listEvents namespaceName name))) :
    AsksOnly P (awaitPod namespaceName name budget) := by
  apply (Engine.asksOnly_pollUntil hpod).handle
  intro outcome
  cases outcome with
  | ok a => trivial
  | error e => exact (asksOnly_describeEvents hevents).andThen fun _ => trivial

theorem asksOnly_awaitAnyPod (h : P (.call (.listPods namespaceName selector))) :
    AsksOnly P (awaitAnyPod namespaceName selector budget) :=
  Engine.asksOnly_pollUntil h

theorem asksOnly_awaitEach (hpod : ∀ name, P (.call (.getPod namespaceName name)))
    (hevents : ∀ name, P (.call (.listEvents namespaceName name))) (pods : List Pod) :
    AsksOnly P (awaitEach namespaceName budget pods) := by
  induction pods with
  | nil => trivial
  | cons pod rest ih =>
    rcases pod with ⟨_, _ | name, _, _⟩
    · exact ih
    · exact (asksOnly_awaitPod (hpod name) (hevents name)).andThen fun _ => ih

theorem asksOnly_awaitPods (hlist : P (.call (.listPods namespaceName selector)))
    (hpod : ∀ name, P (.call (.getPod namespaceName name)))
    (hevents : ∀ name, P (.call (.listEvents namespaceName name))) :
    AsksOnly P (awaitPods namespaceName selector budget) := by
  apply (Engine.asksOnly_call hlist).andThen
  intro pods
  split
  · trivial
  · exact asksOnly_awaitEach hpod hevents pods

theorem asksOnly_awaitNamespaceGone (name : String) (budget : Duration) :
    AsksOnly Action.OnlyLooks (awaitNamespaceGone name budget) :=
  Engine.asksOnly_pollUntil trivial

theorem asksOnly_awaitCrd (h : P (.call (.getCrd name))) : AsksOnly P (awaitCrd name budget) :=
  Engine.asksOnly_pollUntil h

theorem asksOnly_awaitAddress (h : P (.call (.getService namespaceName name))) :
    AsksOnly P (awaitAddress namespaceName name budget) := by
  apply (AsksOnly.mapError (Engine.asksOnly_pollUntil h)).andThen
  intro _
  apply (Engine.asksOnly_call h).andThen
  intro service
  split <;> trivial

end Waiting

end Cluster

open Cluster

/-! ### Units -/

namespace ChartUnit

variable (u : ChartUnit)

theorem looksAtWorkload_say (level : Level) (text : String) :
    AsksOnly Action.LooksAtWorkload (Engine.say level text) :=
  ⟨trivial, fun _ => trivial⟩

theorem looksAtWorkload_awaitSelectors (budget : Duration) (selectors : List String) :
    AsksOnly Action.LooksAtWorkload (u.awaitSelectors budget selectors) := by
  induction selectors with
  | nil => trivial
  | cons selector rest ih =>
    apply (looksAtWorkload_say _ _).andThen
    intro _
    exact (asksOnly_awaitAnyPod trivial).andThen fun _ =>
      (asksOnly_awaitPods trivial (fun _ => trivial) fun _ => trivial).andThen fun _ => ih

theorem looksAtWorkload_awaitCrds (budget : Duration) (crds : List String) :
    AsksOnly Action.LooksAtWorkload (awaitCrds budget crds) := by
  induction crds with
  | nil => trivial
  | cons crd rest ih =>
    apply (looksAtWorkload_say _ _).andThen
    intro _
    exact (asksOnly_awaitCrd trivial).andThen fun _ => ih

theorem looksAtWorkload_awaitReady : AsksOnly Action.LooksAtWorkload u.awaitReady :=
  (u.looksAtWorkload_awaitSelectors _ _).andThen fun _ => looksAtWorkload_awaitCrds _ _

theorem looksAtObjects_awaitReady : AsksOnly Action.LooksAtObjects u.awaitReady :=
  u.looksAtWorkload_awaitReady.mono fun _ => Action.LooksAtWorkload.looksAtObjects

theorem asksOnly_awaitReady : AsksOnly Action.OnlyLooks u.awaitReady :=
  Engine.onlyLooks_of_looksAtObjects u.looksAtObjects_awaitReady

section Applying

variable {P : Action → Prop} (hlooks : ∀ a : Action, a.LooksAtWorkload → P a)
  (hinput : ∀ text, P (.run { program := "kubectl", args := ["apply", "--filename", "-"]
                              stdin := some text }))

include hlooks hinput

theorem asksOnly_applyFollowing (settings : Settings) (manifests : List String) :
    AsksOnly P (u.applyFollowing settings manifests) := by
  induction manifests with
  | nil => trivial
  | cons manifest rest ih =>
    apply (Engine.asksOnly_ofSetup _).andThen
    intro text
    apply ((looksAtWorkload_say _ _).mono hlooks).andThen
    intro _
    exact (Engine.asksOnly_runRetried (hinput text)).andThen fun _ => ih

/-- While a unit is applied its workload is looked at, and the commands are the one that applies it
and those for the manifests that follow. -/
theorem asksOnly_apply_of {verb : Verb} {settings : Settings} {extra : List (String × String)}
    (hcommand : ∀ i, u.applyCommand verb settings extra = .ok i → P (.run i)) :
    AsksOnly P (u.apply verb settings extra) := by
  show AsksOnly P ((Engine.ofSetup (u.applyCommand verb settings extra)).andThen _)
  rcases happly : u.applyCommand verb settings extra with fault | command
  · trivial
  · apply ((looksAtWorkload_say .detail command.line).mono hlooks).andThen
    intro _
    apply (Engine.asksOnly_runChecked (hcommand command happly)).andThen
    intro _
    apply (u.looksAtWorkload_awaitReady.mono hlooks).andThen
    intro _
    exact u.asksOnly_applyFollowing hlooks hinput _ _

end Applying

theorem asksOnly_apply (verb : Verb) (settings : Settings) (extra : List (String × String)) :
    AsksOnly Action.LooksOrRuns (u.apply verb settings extra) :=
  u.asksOnly_apply_of (fun _ ha => Or.inl ha.looksAtObjects.onlyLooks) (fun _ => Or.inr ⟨_, rfl⟩)
    fun _ _ => Or.inr ⟨_, rfl⟩

theorem asksOnly_removeWorkload : AsksOnly Action.LooksOrRuns u.removeWorkload := by
  apply (Engine.looksOrRuns_of_onlyLooks (Engine.asksOnly_say _ _)).andThen
  intro _
  apply (Engine.asksOnly_runChecked (Or.inr ⟨_, rfl⟩)).andThen
  intro output
  split
  · trivial
  · exact Engine.looksOrRuns_of_onlyLooks (Engine.asksOnly_say _ _)

end ChartUnit

namespace IngressUnit

theorem asksOnly_exposure {P : Action → Prop} (hnodes : P (.call .listNodes))
    (hversion : P (.call .serverVersion)) : AsksOnly P exposure := by
  apply (asksOnly_readFacts hnodes hversion).andThen
  intro facts
  split <;> trivial

theorem looksAtObjects_awaitReachable (u : IngressUnit) :
    AsksOnly Action.LooksAtObjects u.awaitReachable :=
  (Engine.looksAtObjects_say _ _).andThen fun _ => (asksOnly_awaitAddress trivial).andThen fun _ =>
    Engine.looksAtObjects_say _ _

theorem asksOnly_awaitReachable (u : IngressUnit) :
    AsksOnly Action.OnlyLooks u.awaitReachable :=
  Engine.onlyLooks_of_looksAtObjects u.looksAtObjects_awaitReachable

theorem asksOnly_findService (places : List (String × String)) :
    AsksOnly Action.OnlyLooks (findService places) := by
  induction places with
  | nil => trivial
  | cons place rest ih =>
    apply (Engine.asksOnly_call trivial).andThen
    intro service
    cases service with
    | some service => trivial
    | none => exact ih

theorem asksOnly_provided (u : IngressUnit) : AsksOnly Action.OnlyLooks u.provided := by
  apply (asksOnly_readState trivial).andThen
  intro state
  cases state with
  | owned => trivial
  | absent => exact asksOnly_findService _
  | foreign => exact asksOnly_findService _

end IngressUnit

end Groundwork
