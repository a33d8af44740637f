import Groundwork.Proofs.Component.Readiness
import Groundwork.Proofs.Engine.Polling

/-!
# Waiting for pods in turn

The pods of a selector are listed once, and those with a name are waited for one after the other.
`Awaited` is the wait for one of them: it goes on while nothing shows that the pod is ready, and
ends with a look that does, with a look that fails, or with the look that is made when the budget is
used up.  `InTurn` is what comes of several of them: the first wait that fails is the last, and the
events about its pod are looked up for the error, whether that succeeds or not.

`awaitPods_in_turn` says what comes of the pods of a selector, whatever the cluster does meanwhile.
-/

namespace Groundwork.Cluster

open Script Stage

variable {id selector name : String} {names : List String} {budget : Duration}
  {outcome : Except DeployError Unit} {history : WorkHistory}

/-! ### One pod -/

/-- A look at the pod of this name found no pod, or one that is not ready. -/
def UnreadyReading (id name : String) (o : Occurrence Action Action.Answer) : Prop :=
  ∃ found : Option Pod, found.any Pod.isReady = false ∧ o = response (.getPod id name) found

/-- A pause, or a look that does not show the pod to be ready. -/
def Unready (id name : String) (o : Occurrence Action Action.Answer) : Prop :=
  (∃ time, o = .slept time) ∨ UnreadyReading id name o

/-- What comes of the wait for a pod, and what happens meanwhile. -/
inductive Awaited (id name : String) (budget : Duration) :
    Except DeployError Unit → WorkHistory → Prop
  | ready {before : WorkHistory} {last : Occurrence Action Action.Answer}
    (hbefore : ∀ o ∈ before, Unready id name o) (htime : before.slept ≤ budget.ns)
    (hlast : ReadyReading id name last) : Awaited id name budget (.ok ()) (before ++ [last])
  | unreadable {before : WorkHistory} {e : DeployError}
    (hbefore : ∀ o ∈ before, Unready id name o) (htime : before.slept ≤ budget.ns) :
    Awaited id name budget (.error e) (before ++ [.asked (.call (.getPod id name)) (.error e)])
  | overdue {before : WorkHistory} {last : Occurrence Action Action.Answer}
    (hbefore : ∀ o ∈ before, Unready id name o) (htime : before.slept = budget.ns)
    (hlast : UnreadyReading id name last) :
    Awaited id name budget (.error (.timeout budget)) (before ++ [last])

theorem Unready.not_readyReading {o : Occurrence Action Action.Answer}
    (h : Unready id name o) : ¬ReadyReading id name o := by
  rintro ⟨pod, hready, rfl⟩
  rcases h with ⟨time, hpause⟩ | ⟨found, hunready, hlook⟩
  · cases hpause
  · cases hlook
    rw [Option.any_some, hready] at hunready
    cases hunready

theorem Unready.asked_eq {a : Action} {answer : Action.Answer a}
    (h : Unready id name (.asked a answer)) : a = .call (.getPod id name) := by
  rcases h with ⟨time, hpause⟩ | ⟨found, -, hlook⟩
  · cases hpause
  · cases hlook
    rfl

namespace Awaited

/-- However a wait ends, it does so with a look at the pod, and not after its deadline. -/
theorem exists_last (h : Awaited id name budget outcome history) :
    ∃ (before : WorkHistory) (answer : Action.Answer (.call (.getPod id name))),
      history = before ++ [.asked (.call (.getPod id name)) answer] ∧
      (∀ o ∈ before, Unready id name o) ∧ before.slept ≤ budget.ns := by
  cases h with
  | ready hbefore htime hlast =>
    obtain ⟨pod, -, rfl⟩ := hlast
    exact ⟨_, _, rfl, hbefore, htime⟩
  | unreadable hbefore htime => exact ⟨_, _, rfl, hbefore, htime⟩
  | overdue hbefore htime hlast =>
    obtain ⟨found, -, rfl⟩ := hlast
    exact ⟨_, _, rfl, hbefore, Nat.le_of_eq htime⟩

theorem slept_le (h : Awaited id name budget outcome history) : history.slept ≤ budget.ns := by
  obtain ⟨before, answer, rfl, -, htime⟩ := h.exists_last
  rw [History.slept_append]
  exact htime

/-- Meanwhile only the pod is looked at. -/
theorem askedOnly (h : Awaited id name budget outcome history) :
    AskedOnly (fun a => a = .call (.getPod id name)) history := by
  obtain ⟨before, answer, rfl, hbefore, -⟩ := h.exists_last
  apply AskedOnly.append fun a answer hmem => (hbefore _ hmem).asked_eq
  rintro a answer ⟨⟩
  rfl

/-- A wait that fails has not shown the pod to be ready. -/
theorem not_readyReading {cause : DeployError} (h : Awaited id name budget (.error cause) history)
    {o : Occurrence Action Action.Answer} (ho : o ∈ history) : ¬ReadyReading id name o := by
  intro hready
  cases h with
  | unreadable hbefore htime =>
    rcases List.mem_append.mp ho with ho | ho
    · exact (hbefore o ho).not_readyReading hready
    · obtain ⟨pod, -, hlook⟩ := hready
      cases List.mem_singleton.mp ho
      cases hlook
  | overdue hbefore htime hlast =>
    rcases List.mem_append.mp ho with ho | ho
    · exact (hbefore o ho).not_readyReading hready
    · cases List.mem_singleton.mp ho
      exact Unready.not_readyReading (Or.inr hlast) hready

end Awaited

/-! ### Several pods -/

/-- What comes of the waits for the pods of these names, one after the other, and what happens
meanwhile. -/
inductive InTurn (id : String) (budget : Duration) :
    List String → Except DeployError Unit → WorkHistory → Prop
  | none : InTurn id budget [] (.ok ()) []
  | ready {name : String} {names : List String} {outcome : Except DeployError Unit}
    {part later : WorkHistory} (hpart : Awaited id name budget (.ok ()) part)
    (hlater : InTurn id budget names outcome later) :
    InTurn id budget (name :: names) outcome (part ++ later)
  | stuck {name : String} {names : List String} {cause : DeployError} {part : WorkHistory}
    (found : Except DeployError (List Event)) (hpart : Awaited id name budget (.error cause) part) :
    InTurn id budget (name :: names) (.error (.podNotReady name id (eventLines found) cause))
      (part ++ [.asked (.call (.listEvents id name)) found])

/-- What is not in the first part of a list is found in the rest of it, with what follows. -/
theorem sublist_of_not_mem {α : Type} {a : α} {before rest l : List α} (ha : a ∉ before)
    (h : (a :: l).Sublist (before ++ rest)) : (a :: l).Sublist rest := by
  induction before with
  | nil => exact h
  | cons b before ih =>
    obtain ⟨hne, hbefore⟩ := not_or.mp (mt List.mem_cons.mpr ha)
    cases h with
    | cons _ h => exact ih hbefore h
    | cons_cons _ h => exact absurd rfl hne

namespace InTurn

/-- All pods get ready if, and only if, each in turn is seen to be ready. -/
theorem ok_iff (h : InTurn id budget names outcome history) :
    outcome = .ok () ↔
      ∃ readings, List.Forall₂ (ReadyReading id) names readings ∧ readings.Sublist history := by
  induction h with
  | none => exact ⟨fun _ => ⟨[], .nil, List.Sublist.refl _⟩, fun _ => rfl⟩
  | ready hpart hlater ih =>
    -- the look that ended the wait is the reading of the first pod
    cases hpart with
    | @ready before last hbefore htime hlast =>
    rw [ih, List.append_assoc]
    constructor
    · rintro ⟨readings, hreadings, hsub⟩
      exact ⟨last :: readings, .cons hlast hreadings,
        (hsub.cons_cons last).trans (List.sublist_append_right _ _)⟩
    · rintro ⟨_, hall, hsub⟩
      obtain ⟨first, readings, hfirst, hreadings, rfl⟩ := List.forall₂_cons_left_iff.mp hall
      -- the first reading is none of those before the last look
      have hnew : first ∉ before := fun hmem => (hbefore first hmem).not_readyReading hfirst
      exact ⟨readings, hreadings, (sublist_of_not_mem hnew hsub).tail⟩
  | stuck found hpart =>
    -- there is no reading for the pod whose wait failed, so there are none for all of them
    refine ⟨fun hok => (nomatch hok), ?_⟩
    rintro ⟨_, hall, hsub⟩
    obtain ⟨first, readings, hfirst, -, rfl⟩ := List.forall₂_cons_left_iff.mp hall
    rcases List.mem_append.mp (hsub.subset (List.mem_cons_self ..)) with hmem | hmem
    · exact absurd hfirst (hpart.not_readyReading hmem)
    · obtain ⟨pod, -, hlook⟩ := hfirst
      cases hlook.symm.trans (List.mem_singleton.mp hmem)

/-- A failure is about one of the pods. -/
theorem error_ne_noPods (h : InTurn id budget names outcome history) :
    outcome ≠ .error (.noPods id selector) := by
  induction h with
  | none => exact fun heq => nomatch heq
  | ready hpart hlater ih => exact ih
  | stuck found hpart => exact fun heq => nomatch heq

/-- Only these pods and the events about them are looked at. -/
theorem askedOnly (h : InTurn id budget names outcome history) :
    AskedOnly (fun a => ∃ name ∈ names,
      a = .call (.getPod id name) ∨ a = .call (.listEvents id name)) history := by
  induction h with
  | none => exact fun _ _ hmem => nomatch hmem
  | @ready name names outcome part later hpart hlater ih =>
    intro a answer hmem
    rcases List.mem_append.mp hmem with hmem | hmem
    · exact ⟨name, List.mem_cons_self .., Or.inl (hpart.askedOnly a answer hmem)⟩
    · obtain ⟨other, hother, ha⟩ := ih a answer hmem
      exact ⟨other, List.mem_cons_of_mem _ hother, ha⟩
  | @stuck name names cause part found hpart =>
    apply AskedOnly.append
    · exact fun a answer hmem =>
        ⟨name, List.mem_cons_self .., Or.inl (hpart.askedOnly a answer hmem)⟩
    · rintro a answer ⟨⟩
      exact ⟨name, List.mem_cons_self .., Or.inr rfl⟩

/-- Each pod takes its budget at most. -/
theorem slept_le (h : InTurn id budget names outcome history) :
    history.slept ≤ names.length * budget.ns := by
  induction h with
  | none => exact Nat.zero_le _
  | ready hpart hlater ih =>
    rw [History.slept_append, List.length_cons, Nat.succ_mul, Nat.add_comm]
    exact Nat.add_le_add ih hpart.slept_le
  | stuck found hpart =>
    rw [History.slept_append, List.length_cons, Nat.succ_mul]
    exact Nat.le_trans hpart.slept_le (Nat.le_add_left _ _)

end InTurn

/-! ### Waiting -/

section Waiting

variable (hbudget : budget.seconds < Wait.endlessSeconds)

theorem unready_of_undecided {history : WorkHistory}
    (h : ∀ o ∈ history, Engine.Undecided (.getPod id name)
      (fun pod => .ok (pod.any Pod.isReady)) o) : ∀ o ∈ history, Unready id name o := by
  intro o ho
  rcases h o ho with hpause | ⟨found, hfound, hlook⟩
  · exact Or.inl hpause
  · exact Or.inr ⟨found, Except.ok.inj hfound, hlook⟩

include hbudget

theorem finishes_lookAtPod (id name : String) :
    Finishes (Engine.pollUntil budget (.getPod id name) fun pod => .ok (pod.any Pod.isReady))
      (Awaited id name budget) := by
  apply (Engine.finishes_pollUntil hbudget _ _).weaken
  rintro _ _ hended
  cases hended with
  | @decided before answer hbefore htime hdecided =>
    rcases answer with e | _ | pod
    · exact .unreadable (unready_of_undecided hbefore) htime
    · exact absurd rfl hdecided
    · have hready : pod.isReady = true :=
        eq_true_of_ne_false fun hfalse => hdecided (congrArg Except.ok hfalse)
      exact .ready (unready_of_undecided hbefore) htime ⟨pod, hready, rfl⟩
  | @overdue before found hbefore htime hlooks hfound =>
    exact .overdue (unready_of_undecided hbefore) htime ⟨found, Except.ok.inj hfound, rfl⟩

theorem finishes_awaitPod (id name : String) :
    Finishes (awaitPod id name budget) (InTurn id budget [name]) := by
  apply (finishes_lookAtPod hbudget id name).handle
  rintro (cause | _) part hpart
  · -- the events are looked up, and whatever comes of it is told in the error
    apply Finishes.ask
    rintro (e | events)
    · exact Finishes.fail (.stuck (.error e) hpart)
    · exact Finishes.fail (.stuck (.ok events) hpart)
  · exact Finishes.done (.ready hpart .none)

/-- Pods without a name are passed over, the others are waited for in turn. -/
theorem finishes_awaitEach (id : String) (pods : List Pod) :
    Finishes (awaitEach id budget pods) (InTurn id budget (pods.filterMap Pod.name)) := by
  induction pods with
  | nil => exact Finishes.done .none
  | cons pod rest ih =>
    rcases hpod : pod.name with _ | name
    · rw [List.filterMap_cons_none hpod]
      simp only [awaitEach, hpod]
      exact ih
    · rw [List.filterMap_cons_some hpod]
      simp only [awaitEach, hpod]
      apply (finishes_awaitPod hbudget id name).andThen
      · rintro _ part (_ | ⟨hpart, ⟨⟩⟩)
        rw [List.append_nil]
        exact ih.weaken fun _ _ hlater => .ready hpart hlater
      · rintro e part hpart
        cases hpart with
        | ready hpart hlater => cases hlater
        | stuck found hpart => exact .stuck found hpart

/-- Waiting for the pods of a selector.  They are listed once.  If that fails, so does the wait, and
if none is listed there are no pods; otherwise those with a name are waited for in turn, and all is
well if, and only if, each of them in turn is seen to be ready.  Each of them takes its budget at
most. -/
theorem awaitPods_in_turn (id selector : String) :
    Finishes (awaitPods id selector budget) fun outcome history =>
      ∃ (listed : Except DeployError (List Pod)) (later : WorkHistory),
        history = .asked (.call (.listPods id selector)) listed :: later ∧
        (∀ e, listed = .error e → outcome = .error e ∧ later = []) ∧
        ∀ pods, listed = .ok pods →
          (outcome = .error (.noPods id selector) ↔ pods = []) ∧
          (pods = [] → later = []) ∧
          (pods ≠ [] → InTurn id budget (pods.filterMap Pod.name) outcome later ∧
            (outcome = .ok () ↔ ∃ readings,
              List.Forall₂ (ReadyReading id) (pods.filterMap Pod.name) readings ∧
                readings.Sublist later)) ∧
          AskedOnly (fun a => ∃ name ∈ pods.filterMap Pod.name,
            a = .call (.getPod id name) ∨ a = .call (.listEvents id name)) later ∧
          later.slept ≤ (pods.filterMap Pod.name).length * budget.ns := by
  apply Finishes.ask
  rintro (e | pods)
  · refine Finishes.fail ⟨.error e, [], rfl, ?_, fun _ h => nomatch h⟩
    rintro _ ⟨⟩
    exact ⟨rfl, rfl⟩
  · show Finishes (if pods.isEmpty then _ else _) _
    split
    · rename_i hempty
      obtain rfl := List.isEmpty_iff.mp hempty
      refine Finishes.fail ⟨.ok [], [], rfl, fun _ h => (nomatch h), ?_⟩
      rintro _ ⟨⟩
      exact ⟨⟨fun _ => rfl, fun _ => rfl⟩, fun _ => rfl, fun h => absurd rfl h,
        fun _ _ hmem => (nomatch hmem), Nat.zero_le _⟩
    · rename_i hsome
      have hpods : pods ≠ [] := fun h => hsome (List.isEmpty_iff.mpr h)
      apply (finishes_awaitEach hbudget id pods).weaken
      intro outcome later hturn
      refine ⟨.ok pods, later, rfl, fun _ h => (nomatch h), ?_⟩
      rintro _ ⟨⟩
      exact ⟨⟨fun h => absurd h hturn.error_ne_noPods, fun h => absurd h hpods⟩,
        fun h => absurd h hpods, fun _ => ⟨hturn, hturn.ok_iff⟩, hturn.askedOnly, hturn.slept_le⟩

end Waiting

/-- A cluster with a pod that is ready, one whose container waits for its image, and another one. -/
def crew : Fake where
  pods := [Specimen.runningPod "edge" "edge-0" [], Specimen.waitingPod "edge" "edge-1" [],
    Specimen.runningPod "edge" "edge-2" []]
  events := [Specimen.event "edge" "edge-1" "Pulling" "image of edge"]

theorem run_crew :
    ∃ (after : Fake) (later : WorkHistory),
      Script.run (Fake.worldWith fun _ => .ok "").recording 0
          (awaitPods "edge" "" (.ofSeconds 2)) (crew, []) =
        (some (.error (.podNotReady "edge-1" "edge" "  Pulling: image of edge"
            (.timeout (.ofSeconds 2)))), after,
          response (.listPods "edge" "") crew.pods :: later) :=
  ⟨_, _, rfl⟩

/-- The second pod does not get ready, and the third one is not waited for. -/
theorem awaitPods_in_turn_crew :
    ∃ (after : Fake) (later : WorkHistory),
      Script.run (Fake.worldWith fun _ => .ok "").recording 0
          (awaitPods "edge" "" (.ofSeconds 2)) (crew, []) =
        (some (.error (.podNotReady "edge-1" "edge" "  Pulling: image of edge"
            (.timeout (.ofSeconds 2)))), after,
          response (.listPods "edge" "") crew.pods :: later) ∧
      InTurn "edge" (.ofSeconds 2) ["edge-0", "edge-1", "edge-2"]
        (.error (.podNotReady "edge-1" "edge" "  Pulling: image of edge"
          (.timeout (.ofSeconds 2)))) later ∧
      later.slept ≤ 6000000000 := by
  have hbudget : (Duration.ofSeconds 2).seconds < Wait.endlessSeconds := by decide
  obtain ⟨after, later, hrun⟩ := run_crew
  obtain ⟨outcome, after', history, hrun', listed, later', rfl, -, hlisted⟩ :=
    (awaitPods_in_turn hbudget "edge" "").run (Fake.worldWith fun _ => .ok "") 0 crew
  cases hrun.symm.trans hrun'
  obtain ⟨-, -, hturn, -, hslept⟩ := hlisted crew.pods rfl
  exact ⟨after, later, hrun, (hturn (by decide)).1, hslept⟩

end Groundwork.Cluster
