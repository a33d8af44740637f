import Mathlib.Data.List.Forall2
import Groundwork.Proofs.Component.Pods

/-!
# How long it takes to apply a component

Time passes only while the engine sleeps.  A script is `Quiet n` if it finishes, sleeps for `n`
nanoseconds at most and does not ask for lists of pods: that are the guards, the commands and the
waits for resource definitions and for an address.

How long it takes to wait for the pods of a selector depends on how many of them the cluster lists.
What happens meanwhile `Attends` to the selector, and takes one budget until there are pods and one
for each of those listed (`finishes_attend`).  A script is `Budgeted` if it does this for selectors
in turn and is quiet before and after, and installing or upgrading a component is budgeted whatever
the cluster and the commands do (`finishes_applyBy`).
-/

namespace Groundwork

open Script Cluster

/-! ### Lists of pods -/

/-- How many pods the cluster has listed, if it was asked to; none if that failed. -/
def podsListed? : Occurrence Action Action.Answer → Option Nat
  | .asked (.call (.listPods _ _)) (.ok pods) => some pods.length
  | .asked (.call (.listPods _ _)) (.error _) => some 0
  | _ => none

/-- The sizes of the lists of pods, in order. -/
def listings (history : WorkHistory) : List Nat :=
  history.filterMap podsListed?

/-- The size of the last list of pods. -/
def lastListed (history : WorkHistory) : Nat :=
  (listings history).getLast?.getD 0

@[simp] theorem listings_append (before later : WorkHistory) :
    listings (before ++ later) = listings before ++ listings later :=
  List.filterMap_append

theorem lastListed_append {before later : WorkHistory} {n : Nat} (h : listings later = [n]) :
    lastListed (before ++ later) = n := by
  rw [lastListed, listings_append, h, List.getLast?_append]
  rfl

/-- The action does not ask for a list of pods. -/
def Action.Unlisting : Action → Prop
  | .call (.listPods _ _) => False
  | _ => True

theorem listings_eq_nil {history : WorkHistory} (h : AskedOnly Action.Unlisting history) :
    listings history = [] := by
  rw [listings, List.filterMap_eq_nil_iff]
  intro o ho
  unfold podsListed?
  split
  · exact (h _ _ ho).elim
  · exact (h _ _ ho).elim
  · rfl

/-! ### Quiet scripts -/

/-- The script asks for no list of pods, finishes, and sleeps for so many nanoseconds at most. -/
structure Quiet {α : Type} (n : Nat) (s : Engine α) : Prop where
  asks : AsksOnly Action.Unlisting s
  takes : Takes s n

namespace Quiet

variable {α β : Type} {m n : Nat} {budget : Duration}

theorem done {a : α} : Quiet 0 (.done a) :=
  ⟨trivial, .done⟩

theorem fail {e : DeployError} : Quiet 0 (.fail e : Engine α) :=
  ⟨trivial, .fail⟩

theorem mono {s : Engine α} (h : Quiet m s) (hle : m ≤ n) : Quiet n s :=
  ⟨h.asks, h.takes.mono hle⟩

theorem andThen {s : Engine α} {f : α → Engine β} (hs : Quiet m s) (hf : ∀ a, Quiet n (f a)) :
    Quiet (m + n) (s.andThen f) :=
  ⟨hs.asks.andThen fun a => (hf a).asks, hs.takes.andThen fun a => (hf a).takes⟩

/-- What comes after something that takes no time. -/
theorem after {s : Engine α} {f : α → Engine β} (hs : Quiet 0 s) (hf : ∀ a, Quiet n (f a)) :
    Quiet n (s.andThen f) := by
  rw [← Nat.zero_add n]
  exact hs.andThen hf

theorem mapError {s : Engine α} {f : DeployError → DeployError} (hs : Quiet n s) :
    Quiet n (s.mapError f) :=
  ⟨hs.asks.mapError, hs.takes.mapError⟩

theorem ofSetup (x : Except SetupError α) : Quiet 0 (Engine.ofSetup x) := by
  cases x with
  | ok a => exact done
  | error e => exact fail

theorem say (level : Level) (text : String) : Quiet 0 (Engine.say level text) :=
  ⟨⟨trivial, fun _ => trivial⟩, .ask fun _ => .done⟩

theorem call {c : Call} (h : Action.Unlisting (.call c)) : Quiet 0 (Engine.call c) :=
  ⟨Engine.asksOnly_call h, .ask fun answer => .ofExcept answer⟩

theorem readState (name : String) : Quiet 0 (NamespaceState.read name) := by
  apply Quiet.after
  · exact call (c := .getNamespace name) trivial
  · exact fun _ => done

theorem guardInstall (id : String) : Quiet 0 (Cluster.guardInstall id) := by
  apply (readState id).after
  intro state
  cases state with
  | absent => exact done
  | owned => exact fail
  | foreign => exact fail

theorem guardUpgrade (id : String) : Quiet 0 (Cluster.guardUpgrade id) := by
  apply (readState id).after
  intro state
  cases state with
  | absent => exact fail
  | owned => exact done
  | foreign => exact fail

theorem runChecked (i : Invocation) (benign : List String) :
    Quiet 0 (Engine.runChecked i benign) := by
  refine ⟨Engine.asksOnly_runChecked trivial, ?_⟩
  apply Takes.andThen (n := 0)
  · exact .ask fun answer => .ofExcept answer
  · exact fun o => .ofExcept _

/-- A command that is tried again takes the pauses between the attempts. -/
theorem runRetried (policy : RetryPolicy) (i : Invocation) :
    Quiet ((max policy.maxAttempts.toNat 1 - 1) * policy.delay.ns) (Engine.runRetried policy i) :=
  ⟨Engine.asksOnly_runRetried trivial, .retryIf (fun _ => .done) (Quiet.runChecked i []).takes⟩

end Quiet

/-- A wait with a budget that is no longer than a deadline can be takes no longer than that. -/
theorem Engine.takes_pollUntil {budget : Duration} (hbudget : budget.seconds < Wait.endlessSeconds)
    (c : Call) (judge : c.Found → Except DeployError Bool) :
    Takes (pollUntil budget c judge) budget.ns := by
  have hinterval : 0 < (Wait.within pollInterval budget).interval.ns := by
    show 0 < pollInterval.ns
    decide
  exact .pollUntil (Wait.left_within_of_lt hbudget pollInterval) hinterval

namespace Quiet

variable {budget : Duration} (hbudget : budget.seconds < Wait.endlessSeconds)

include hbudget

theorem pollUntil (c : Call) (h : Action.Unlisting (.call c))
    (judge : c.Found → Except DeployError Bool) :
    Quiet budget.ns (Engine.pollUntil budget c judge) :=
  ⟨Engine.asksOnly_pollUntil h, Engine.takes_pollUntil hbudget c judge⟩

theorem awaitCrds (crds : List String) :
    Quiet (crds.length * budget.ns) (ChartUnit.awaitCrds budget crds) := by
  induction crds with
  | nil => exact done.mono (Nat.zero_le _)
  | cons crd rest ih =>
    rw [List.length_cons, Nat.succ_mul, Nat.add_comm]
    apply Quiet.after (say _ _)
    intro _
    apply Quiet.andThen
    · exact pollUntil hbudget (.getCrd crd) trivial _
    · exact fun _ => ih

theorem awaitAddress (namespaceName name : String) :
    Quiet budget.ns (Cluster.awaitAddress namespaceName name budget) := by
  apply Quiet.andThen (n := 0)
  · apply Quiet.mapError
    exact pollUntil hbudget (.getService namespaceName name) trivial _
  · intro _
    apply Quiet.after
    · exact call trivial
    · intro service
      split
      · exact done
      · exact fail

end Quiet

/-! ### Pods of a selector -/

/-- What the engine looks at while it waits for the pods of a selector. -/
def Action.LooksAtPods (id selector : String) (a : Action) : Prop :=
  a = .call (.listPods id selector) ∨ (∃ name, a = .call (.getPod id name)) ∨
    ∃ name, a = .call (.listEvents id name)

/-- What happens for a selector: nothing, if a run does not come so far, or the user is told and
then only pods of the namespace are looked at, listed by that selector. -/
def Attends (id selector : String) (part : WorkHistory) : Prop :=
  part = [] ∨ ∃ rest,
    part = .asked (.say .progress ("Waiting for pods " ++ selector ++ " in " ++ id)) () :: rest ∧
      AskedOnly (Action.LooksAtPods id selector) rest

/-- Nothing happens for selectors that a run does not come to. -/
theorem exists_unattended (id : String) (selectors : List String) :
    ∃ parts, parts.flatten = [] ∧ List.Forall₂ (Attends id) selectors parts := by
  induction selectors with
  | nil => exact ⟨[], rfl, .nil⟩
  | cons selector rest ih =>
    obtain ⟨parts, hnothing, hparts⟩ := ih
    exact ⟨[] :: parts, hnothing, .cons (Or.inl rfl) hparts⟩

/-- The waits for which the pods of the selectors account: one for each selector, and one for each
pod that the cluster listed for it. -/
def podWaits : List WorkHistory → Nat
  | [] => 0
  | part :: rest => 1 + lastListed part + podWaits rest

section Selectors

variable {budget : Duration} (hbudget : budget.seconds < Wait.endlessSeconds)

include hbudget

/-- Pods are listed once, and each of them may take the budget. -/
theorem finishes_awaitPods (id selector : String) :
    Finishes (awaitPods id selector budget) fun _ history =>
      ∃ n, listings history = [n] ∧ history.slept ≤ n * budget.ns := by
  apply Finishes.ask
  rintro (e | pods)
  · exact Finishes.fail ⟨0, rfl, Nat.zero_le _⟩
  · show Finishes (if pods.isEmpty then _ else _) _
    split
    · exact Finishes.fail ⟨pods.length, rfl, Nat.zero_le _⟩
    · apply (finishes_awaitEach hbudget id pods).weaken
      intro _ later hturn
      have hunlisting : AskedOnly Action.Unlisting later := by
        intro a answer hmem
        obtain ⟨name, -, rfl | rfl⟩ := hturn.askedOnly a answer hmem
        · trivial
        · trivial
      refine ⟨pods.length, ?_, ?_⟩
      · -- nothing is listed after that, so the list is the only one
        show pods.length :: listings later = [pods.length]
        rw [listings_eq_nil hunlisting]
      · exact Nat.le_trans hturn.slept_le (Nat.mul_le_mul_right _ (List.length_filterMap_le ..))

/-- Waiting for the pods of a selector takes one budget until there are pods, and one for each pod
that is listed. -/
theorem finishes_attend (id selector : String) :
    Finishes ((Engine.say .progress ("Waiting for pods " ++ selector ++ " in " ++ id)).andThen
        fun _ => (awaitAnyPod id selector budget).andThen fun _ => awaitPods id selector budget)
      fun _ part => Attends id selector part ∧ part.slept ≤ (1 + lastListed part) * budget.ns := by
  have hasks : AsksOnly (Action.LooksAtPods id selector)
      ((awaitAnyPod id selector budget).andThen fun _ => awaitPods id selector budget) := by
    apply (asksOnly_awaitAnyPod (Or.inl rfl)).andThen
    intro _
    exact asksOnly_awaitPods (Or.inl rfl) (fun name => Or.inr (Or.inl ⟨name, rfl⟩))
      fun name => Or.inr (Or.inr ⟨name, rfl⟩)
  have htakes : Finishes
      ((awaitAnyPod id selector budget).andThen fun _ => awaitPods id selector budget)
      fun _ rest => rest.slept ≤ (1 + lastListed rest) * budget.ns := by
    apply Finishes.andThen (Engine.takes_pollUntil hbudget _ _)
    · -- the list of the second wait is the last one, so it is the one that counts
      intro _ before hbefore
      apply (finishes_awaitPods hbudget id selector).weaken
      rintro _ later ⟨n, hlistings, hlater⟩
      rw [lastListed_append hlistings, History.slept_append, Nat.add_mul, Nat.one_mul]
      exact Nat.add_le_add hbefore hlater
    · intro _ before hbefore
      rw [Nat.add_mul, Nat.one_mul]
      exact Nat.le_trans hbefore (Nat.le_add_right _ _)
  -- what the user is told comes first, and takes no time
  apply Finishes.ask
  intro _
  apply (Finishes.asking htakes hasks).weaken
  rintro _ rest ⟨hslept, hasked⟩
  exact ⟨Or.inr ⟨rest, rfl, hasked⟩, hslept⟩

end Selectors

/-! ### Budgeted scripts -/

/-- The history attends to the selectors in turn, asks for no lists of pods before and after, and
besides the waits for pods it takes so many nanoseconds at most. -/
def WithinBudget (id : String) (selectors : List String) (budget : Duration) (extra : Nat)
    (history : WorkHistory) : Prop :=
  ∃ before parts later, history = before ++ parts.flatten ++ later ∧
    List.Forall₂ (Attends id) selectors parts ∧ listings before = [] ∧ listings later = [] ∧
    history.slept ≤ podWaits parts * budget.ns + extra

namespace WithinBudget

variable {id : String} {selectors : List String} {budget : Duration} {m n : Nat}
  {before history later : WorkHistory}

theorem mono (h : WithinBudget id selectors budget m history) (hle : m ≤ n) :
    WithinBudget id selectors budget n history := by
  obtain ⟨before, parts, later, rfl, hparts, hbefore, hlater, hslept⟩ := h
  exact ⟨before, parts, later, rfl, hparts, hbefore, hlater, by omega⟩

/-- A run that lists no pods has not come to the first selector. -/
theorem of_quiet (hlistings : listings history = []) (hslept : history.slept ≤ n) :
    WithinBudget id selectors budget n history := by
  obtain ⟨parts, hnothing, hparts⟩ := exists_unattended id selectors
  refine ⟨history, parts, [], ?_, hparts, hlistings, rfl, by omega⟩
  rw [hnothing, List.append_nil, List.append_nil]

theorem append_left (h : WithinBudget id selectors budget n history)
    (hlistings : listings before = []) (hslept : before.slept ≤ 0) :
    WithinBudget id selectors budget n (before ++ history) := by
  obtain ⟨front, parts, later, rfl, hparts, hfront, hlater, hhistory⟩ := h
  refine ⟨before ++ front, parts, later, ?_, hparts, ?_, hlater, ?_⟩
  · simp only [List.append_assoc]
  · rw [listings_append, hlistings, hfront]
    rfl
  · rw [History.slept_append]
    omega

theorem append_right (h : WithinBudget id selectors budget m history)
    (hlistings : listings later = []) (hslept : later.slept ≤ n) :
    WithinBudget id selectors budget (m + n) (history ++ later) := by
  obtain ⟨before, parts, rest, rfl, hparts, hbefore, hrest, hhistory⟩ := h
  refine ⟨before, parts, rest ++ later, ?_, hparts, hbefore, ?_, ?_⟩
  · simp only [List.append_assoc]
  · rw [listings_append, hlistings, hrest]
    rfl
  · rw [History.slept_append]
    omega

end WithinBudget

/-- The script finishes within its budgets, whatever the outside does. -/
def Budgeted {α : Type} (id : String) (selectors : List String) (budget : Duration) (extra : Nat)
    (s : Engine α) : Prop :=
  Finishes s fun _ history => WithinBudget id selectors budget extra history

theorem Quiet.finishes {α : Type} {n : Nat} {s : Engine α} (h : Quiet n s) :
    Finishes s fun _ history => listings history = [] ∧ history.slept ≤ n := by
  apply (Finishes.asking h.takes h.asks).weaken
  rintro _ history ⟨hslept, hasked⟩
  exact ⟨listings_eq_nil hasked, hslept⟩

namespace Budgeted

variable {α β : Type} {id : String} {selectors : List String} {budget : Duration} {m n : Nat}

theorem of_quiet {s : Engine α} (h : Quiet n s) : Budgeted id selectors budget n s :=
  h.finishes.weaken fun _ _ hquiet => .of_quiet hquiet.1 hquiet.2

/-- What comes after something that takes no time. -/
theorem after {s : Engine α} {f : α → Engine β} (hs : Quiet 0 s)
    (hf : ∀ a, Budgeted id selectors budget n (f a)) :
    Budgeted id selectors budget n (s.andThen f) := by
  apply Finishes.andThen hs.finishes
  · rintro a before ⟨hlistings, hslept⟩
    exact Finishes.weaken (hf a) fun _ _ hlater => hlater.append_left hlistings hslept
  · rintro _ before ⟨hlistings, hslept⟩
    exact WithinBudget.of_quiet hlistings (Nat.le_trans hslept (Nat.zero_le n))

/-- What comes before something quiet. -/
theorem andThen {s : Engine α} {f : α → Engine β} (hs : Budgeted id selectors budget m s)
    (hf : ∀ a, Quiet n (f a)) : Budgeted id selectors budget (m + n) (s.andThen f) := by
  apply Finishes.andThen hs
  · intro a before hbefore
    apply (hf a).finishes.weaken
    rintro _ later ⟨hlistings, hslept⟩
    exact hbefore.append_right hlistings hslept
  · intro _ before hbefore
    exact hbefore.mono (Nat.le_add_right m n)

end Budgeted

/-! ### Units -/

namespace ChartUnit

variable (u : ChartUnit)

/-- What is granted besides the waits for pods: a budget for each resource definition, and the
pauses between the attempts at each manifest that follows. -/
def fixedTime (u : ChartUnit) : Nat :=
  u.spec.crds.length * u.budgets.forDeployment.ns +
    u.spec.postApply.length *
      ((max u.budgets.retryAttempts.toNat 1 - 1) * u.budgets.retryDelay.ns)

theorem quiet_claim (verb : Verb) : Quiet 0 (u.claim verb) := by
  cases verb with
  | install =>
    apply (Quiet.guardInstall u.spec.id).after
    intro _
    apply (Quiet.say _ _).after
    intro _
    exact Quiet.call (c := .createNamespace u.spec.id ownerLabels) trivial
  | upgrade => exact (Quiet.guardUpgrade u.spec.id).after fun _ => Quiet.say _ _

/-- One manifest after the other takes the pauses between its attempts. -/
theorem quiet_applyFollowing (settings : Settings) (manifests : List String) :
    Quiet (manifests.length *
        ((max u.budgets.retryAttempts.toNat 1 - 1) * u.budgets.retryDelay.ns))
      (u.applyFollowing settings manifests) := by
  induction manifests with
  | nil => exact Quiet.done.mono (Nat.zero_le _)
  | cons manifest rest ih =>
    rw [List.length_cons, Nat.succ_mul, Nat.add_comm]
    apply (Quiet.ofSetup _).after
    intro text
    apply (Quiet.say _ _).after
    intro _
    exact (Quiet.runRetried u.retryPolicy _).andThen fun _ => ih

section Deployment

variable {budget : Duration} (hbudget : budget.seconds < Wait.endlessSeconds)

include hbudget

/-- The selectors are attended to one after the other. -/
theorem finishes_awaitSelectors (selectors : List String) :
    Finishes (u.awaitSelectors budget selectors) fun _ history =>
      ∃ parts, history = parts.flatten ∧ List.Forall₂ (Attends u.spec.id) selectors parts ∧
        history.slept ≤ podWaits parts * budget.ns := by
  induction selectors with
  | nil => exact Finishes.done ⟨[], rfl, .nil, Nat.zero_le _⟩
  | cons selector rest ih =>
    have hcons : u.awaitSelectors budget (selector :: rest) =
        ((Engine.say .progress ("Waiting for pods " ++ selector ++ " in " ++ u.spec.id)).andThen
          fun _ => (awaitAnyPod u.spec.id selector budget).andThen fun _ =>
            awaitPods u.spec.id selector budget).andThen fun _ => u.awaitSelectors budget rest := by
      simp only [andThen_andThen]
      rfl
    -- what is done for one selector is one step, so that a failure within it ends a part
    rw [hcons]
    apply Finishes.andThen (finishes_attend hbudget u.spec.id selector)
    · rintro _ part ⟨hattends, hpart⟩
      apply ih.weaken
      rintro _ later ⟨parts, rfl, hparts, hlater⟩
      refine ⟨part :: parts, rfl, .cons hattends hparts, ?_⟩
      rw [podWaits, Nat.add_mul, History.slept_append]
      exact Nat.add_le_add hpart hlater
    · -- the run ends here, and nothing happens for the other selectors
      rintro _ part ⟨hattends, hpart⟩
      obtain ⟨parts, hnothing, hparts⟩ := exists_unattended u.spec.id rest
      refine ⟨part :: parts, ?_, .cons hattends hparts, ?_⟩
      · rw [List.flatten_cons, hnothing, List.append_nil]
      · rw [podWaits, Nat.add_mul]
        exact Nat.le_trans hpart (Nat.le_add_right _ _)

theorem budgeted_awaitSelectors (selectors : List String) :
    Budgeted u.spec.id selectors budget 0 (u.awaitSelectors budget selectors) := by
  apply (u.finishes_awaitSelectors hbudget selectors).weaken
  rintro _ history ⟨parts, rfl, hparts, hslept⟩
  exact ⟨[], parts, [], (List.append_nil _).symm, hparts, rfl, rfl, hslept⟩

end Deployment

variable (hdeployment : u.budgets.forDeployment.seconds < Wait.endlessSeconds)

include hdeployment

theorem budgeted_apply (verb : Verb) (settings : Settings) (extra : List (String × String)) :
    Budgeted u.spec.id u.spec.ready u.budgets.forDeployment u.fixedTime
      (u.apply verb settings extra) := by
  have hready : Budgeted u.spec.id u.spec.ready u.budgets.forDeployment
      (u.spec.crds.length * u.budgets.forDeployment.ns) u.awaitReady := by
    rw [← Nat.zero_add (u.spec.crds.length * u.budgets.forDeployment.ns)]
    exact (u.budgeted_awaitSelectors hdeployment u.spec.ready).andThen fun _ =>
      Quiet.awaitCrds hdeployment u.spec.crds
  apply Budgeted.after (Quiet.ofSetup _)
  intro command
  apply Budgeted.after (Quiet.say _ _)
  intro _
  apply Budgeted.after (Quiet.runChecked command [])
  intro _
  exact hready.andThen fun _ => u.quiet_applyFollowing settings u.spec.postApply

/-- Whatever its skip setting says, a unit keeps to its budgets. -/
theorem budgeted_applyWith (verb : Verb) (settings : Settings) (extra : List (String × String)) :
    Budgeted u.spec.id u.spec.ready u.budgets.forDeployment u.fixedTime
      (u.applyWith verb settings extra) := by
  rcases hskip : u.skipReason settings with fault | reason | _
  · rw [u.applyWith_of_error hskip]
    exact .of_quiet (Quiet.fail.mono (Nat.zero_le _))
  · rw [u.applyWith_of_active hskip]
    apply Budgeted.after (u.quiet_claim verb)
    intro _
    apply Budgeted.andThen (n := 0) (u.budgeted_apply hdeployment verb settings extra)
    intro _
    exact (Quiet.say _ _).after fun _ => Quiet.done
  · rw [u.applyWith_of_skipped hskip]
    exact .of_quiet (((Quiet.say _ _).after fun _ => Quiet.done).mono (Nat.zero_le _))

end ChartUnit

namespace IngressUnit

theorem quiet_exposure : Quiet 0 exposure := by
  have hfacts : Quiet 0 readFacts :=
    (Quiet.call (c := .listNodes) trivial).after fun _ =>
      (Quiet.call (c := .serverVersion) trivial).after fun _ => Quiet.done
  apply hfacts.after
  intro facts
  split
  · exact Quiet.done
  · exact Quiet.done

/-- To be reachable a controller has one more budget. -/
theorem budgeted_exposed (u : IngressUnit)
    (hdeployment : u.chart.budgets.forDeployment.seconds < Wait.endlessSeconds)
    (hbalancer : u.chart.budgets.forLoadBalancer.seconds < Wait.endlessSeconds) (verb : Verb)
    (settings : Settings) :
    Budgeted u.chart.spec.id u.chart.spec.ready u.chart.budgets.forDeployment
      (u.chart.fixedTime + u.chart.budgets.forLoadBalancer.ns)
      (u.exposed (u.chart.applyWith verb settings)) := by
  have hreachable : Quiet u.chart.budgets.forLoadBalancer.ns u.awaitReachable := by
    apply (Quiet.say _ _).after
    intro _
    apply Quiet.andThen (n := 0) (Quiet.awaitAddress hbalancer _ _)
    exact fun _ => Quiet.say _ _
  apply Budgeted.after quiet_exposure
  rintro ⟨values, balanced⟩
  apply Budgeted.andThen (u.chart.budgeted_applyWith hdeployment verb settings values)
  intro applied
  split
  · exact hreachable
  · exact Quiet.done.mono (Nat.zero_le _)

end IngressUnit

/-! ### Components -/

namespace Component

open ChartUnit

variable {spec : UnitSpec} {budgets : Budgets} {c : Component} {σ : Type}

/-- A finite budget bounds every installation and every upgrade.  Whatever the cluster and the
commands do, the run ends; and all that it sleeps is one deployment budget for each selector and for
each pod that the cluster listed for it, one for each resource definition, the pauses between the
attempts at the manifests that follow, and for an ingress controller the budget for its address. -/
theorem finishes_applyBy (hc : ofSpec spec budgets = .ok c)
    (hdeployment : budgets.forDeployment.seconds < Wait.endlessSeconds)
    (hbalancer : budgets.forLoadBalancer.seconds < Wait.endlessSeconds) (verb : Verb)
    (settings : Settings) (world : World Action Action.Answer σ) (patience : Nat) (state : σ) :
    ∃ outcome after history before parts later,
      Script.run world.recording patience (c.applyBy verb settings) (state, []) =
          (some outcome, after, history) ∧
        history = before ++ parts.flatten ++ later ∧
        List.Forall₂ (Attends spec.id) spec.ready parts ∧
        listings before = [] ∧ listings later = [] ∧
        history.slept ≤
          (podWaits parts + spec.crds.length) * budgets.forDeployment.ns +
            spec.postApply.length *
              ((max budgets.retryAttempts.toNat 1 - 1) * budgets.retryDelay.ns) +
            (if spec.kind = .ingress then budgets.forLoadBalancer.ns else 0) := by
  obtain ⟨u, rfl, rfl, rfl⟩ := component_of_ofSpec hc
  have hbudgeted : Budgeted u.spec.id u.spec.ready u.budgets.forDeployment
      (u.fixedTime + if u.spec.kind = .ingress then u.budgets.forLoadBalancer.ns else 0)
      (u.component.applyBy verb settings) := by
    rw [applyBy_component]
    split
    · exact IngressUnit.budgeted_exposed ⟨u⟩ hdeployment hbalancer verb settings
    · exact (u.budgeted_applyWith hdeployment verb settings []).andThen fun _ => Quiet.done
  obtain ⟨outcome, after, history, hrun, before, parts, later, hhistory, hparts, hbefore, hlater,
    hslept⟩ := hbudgeted.run world patience state
  refine ⟨outcome, after, history, before, parts, later, hrun, hhistory, hparts, hbefore, hlater,
    ?_⟩
  rw [fixedTime] at hslept
  rw [Nat.add_mul]
  omega

/-- On a cluster without pods the budgets run out, and the run ends. -/
theorem finishes_applyBy_gateway :
    ∃ c outcome after history before parts later, ofSpec gateway.spec {} = .ok c ∧
      Script.run (Fake.worldWith fun _ => .ok "").recording 0 (c.applyBy .install ∅)
          (({} : Fake), []) = (some outcome, after, history) ∧
        history = before ++ parts.flatten ++ later ∧
        List.Forall₂ (Attends "edge") [""] parts ∧
        listings before = [] ∧ listings later = [] ∧
        history.slept ≤ (podWaits parts + 1) * 180000000000 + 9 * 5000000000 + 120000000000 := by
  have hc : ofSpec gateway.spec {} = .ok (IngressUnit.toComponent ⟨gateway⟩) := rfl
  obtain ⟨outcome, after, history, before, parts, later, hrun, hhistory, hparts, hbefore, hlater,
    hslept⟩ := finishes_applyBy hc (by decide) (by decide) .install ∅
      (Fake.worldWith fun _ => .ok "") 0 {}
  exact ⟨_, outcome, after, history, before, parts, later, hc, hrun, hhistory, hparts, hbefore,
    hlater, hslept⟩

end Component

end Groundwork
