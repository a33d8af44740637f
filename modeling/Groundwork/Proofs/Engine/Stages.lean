import Groundwork.Proofs.Component.SettingErrors
import Groundwork.Proofs.Script.Evidence

/-!
# Going through stages

A `Stage` is a part of what the engine has to get through: the actions that it takes for that, and
what shows that it was passed.  A run makes `Progress` through stages if it ends with a result only
after it has passed all of them, one after the other, and is at one of them when it stops earlier:
then the stages before that one were passed, and nothing has been done since but what belongs to it.
Only the calls to the cluster and the commands count for this, the `deeds` of a run.

A script `GoesThrough` stages if its runs make progress through them, in whatever world.
`GoesThrough.stage` is the rule for a script that is one stage, `GoesThrough.andThen` puts the stages
of two scripts behind each other.
-/

namespace Groundwork

open Script

/-! ### Deeds -/

/-- What the cluster answered to a call. -/
def response (c : Cluster.Call) (found : c.Found) : Occurrence Action Action.Answer :=
  .asked (.call c) (.ok found)

/-- A call to the cluster or a command. -/
def isDeed : Occurrence Action Action.Answer → Bool
  | .asked (.call _) _ => true
  | .asked (.run _) _ => true
  | _ => false

/-- The calls to the cluster and the commands in a history. -/
def deeds (history : WorkHistory) : WorkHistory :=
  history.filter isDeed

@[simp] theorem deeds_append (before after : WorkHistory) :
    deeds (before ++ after) = deeds before ++ deeds after :=
  List.filter_append ..

/-! ### Evidence of single actions -/

namespace Engine

theorem attests_call (c : Cluster.Call) :
    Attests (call c) fun found history => history = [response c found] := by
  apply Attests.ask
  intro answer
  apply Attests.ofExcept
  rintro found rfl
  rfl

theorem attests_run (i : Invocation) :
    Attests (run i) fun o history => history = [execution i o] := by
  apply Attests.ask
  intro answer
  apply Attests.ofExcept
  rintro o rfl
  rfl

/-- A checked command that is not excused has succeeded. -/
theorem attests_runChecked (i : Invocation) :
    Attests (runChecked i []) fun o history => o.success = true ∧ history = [execution i o] := by
  apply (attests_run i).andThen
  rintro o before rfl
  apply Attests.ofExcept
  intro o' hjudged
  obtain ⟨rfl, hsuccess⟩ := judgeOutput_eq_ok.mp hjudged
  exact ⟨by simpa [CommandOutput.mentions] using hsuccess, List.append_nil _⟩

theorem attests_runRetried (policy : RetryPolicy) (i : Invocation) :
    Attests (runRetried policy i) fun o history =>
      o.success = true ∧ ∃ before, history = before ++ [execution i o] := by
  apply (Attests.retryIf (attests_runChecked i)).weaken
  rintro o history ⟨before, last, rfl, hsuccess, rfl⟩
  exact ⟨hsuccess, before, rfl⟩

/-- A wait that ends well has seen what its judge accepts. -/
theorem attests_pollUntil {budget : Duration} {c : Cluster.Call}
    {judge : c.Found → Except DeployError Bool} :
    Attests (pollUntil budget c judge) fun _ history =>
      ∃ before found, judge found = .ok true ∧ history = before ++ [response c found] := by
  apply Attests.pollUntil.weaken
  rintro _ history ⟨before, answer, hjudge, rfl⟩
  obtain ⟨found, rfl, haccepted⟩ := bind_eq_ok.mp hjudge
  exact ⟨before, found, haccepted, rfl⟩

end Engine

/-! ### Stages -/

/-- A part of what the engine has to get through. -/
structure Stage where
  /-- What is done for it. -/
  asks : Action → Prop
  /-- What shows that it was passed. -/
  shown : WorkHistory → Prop

namespace Stage

/-- This was done for the stage, and it shows that the stage was passed. -/
structure Covers (stage : Stage) (history : WorkHistory) : Prop where
  asked : AskedOnly stage.asks history
  shown : stage.shown history

/-- The history goes through the stages, one after the other. -/
def Passed (stages : List Stage) (history : WorkHistory) : Prop :=
  ∃ parts, List.Forall₂ Covers stages parts ∧ history = parts.flatten

/-- The history goes through some stages, and then does only what belongs to the next one. -/
def StoppedAt (stages : List Stage) (history : WorkHistory) : Prop :=
  ∃ passed stage later before last, stages = passed ++ stage :: later ∧ Passed passed before ∧
    AskedOnly stage.asks last ∧ history = before ++ last

/-- A run with a result has passed all stages; one without is at one of them. -/
def Progress {α : Type} (stages : List Stage) (outcome : Option (Except DeployError α))
    (history : WorkHistory) : Prop :=
  match outcome with
  | some (.ok _) => Passed stages (deeds history)
  | _ => StoppedAt stages (deeds history)

variable {α β : Type} {first second : List Stage} {stage : Stage} {before later : WorkHistory}

theorem passed_nil : Passed [] [] :=
  ⟨[], .nil, rfl⟩

theorem passed_singleton (h : stage.Covers before) : Passed [stage] before :=
  ⟨[before], .cons h .nil, by simp⟩

theorem Passed.append (h : Passed first before) (h' : Passed second later) :
    Passed (first ++ second) (before ++ later) := by
  obtain ⟨parts, hparts, rfl⟩ := h
  obtain ⟨parts', hparts', rfl⟩ := h'
  exact ⟨parts ++ parts', List.rel_append hparts hparts', by rw [List.flatten_append]⟩

/-- A history goes through stages if it goes through the first and then through the others. -/
theorem passed_cons_iff {stages : List Stage} {history : WorkHistory} :
    Passed (stage :: stages) history ↔ ∃ part later, stage.Covers part ∧ Passed stages later ∧
      history = part ++ later := by
  constructor
  · rintro ⟨parts, hparts, rfl⟩
    obtain ⟨part, parts', hpart, hparts', rfl⟩ := List.forall₂_cons_left_iff.mp hparts
    exact ⟨part, parts'.flatten, hpart, ⟨parts', hparts', rfl⟩, List.flatten_cons⟩
  · rintro ⟨part, later, hpart, ⟨parts, hparts, rfl⟩, rfl⟩
    exact ⟨part :: parts, .cons hpart hparts, List.flatten_cons.symm⟩

theorem passed_append_iff {history : WorkHistory} :
    Passed (first ++ second) history ↔ ∃ before later, Passed first before ∧ Passed second later ∧
      history = before ++ later := by
  constructor
  · induction first generalizing history with
    | nil => exact fun h => ⟨[], history, passed_nil, h, rfl⟩
    | cons stage first ih =>
      intro h
      obtain ⟨part, rest, hpart, hrest, rfl⟩ := passed_cons_iff.mp h
      obtain ⟨before, later, hbefore, hlater, rfl⟩ := ih hrest
      exact ⟨part ++ before, later, passed_cons_iff.mpr ⟨part, before, hpart, hbefore, rfl⟩, hlater,
        (List.append_assoc ..).symm⟩
  · rintro ⟨before, later, hbefore, hlater, rfl⟩
    exact hbefore.append hlater

theorem stoppedAt_cons (rest : List Stage) (h : AskedOnly stage.asks before) :
    StoppedAt (stage :: rest) before :=
  ⟨[], stage, rest, [], before, rfl, passed_nil, h, rfl⟩

theorem StoppedAt.append_left (h : Passed first before) (h' : StoppedAt second later) :
    StoppedAt (first ++ second) (before ++ later) := by
  obtain ⟨passed, stage, rest, front, last, rfl, hpassed, hasked, rfl⟩ := h'
  exact ⟨first ++ passed, stage, rest, before ++ front, last, by rw [List.append_assoc],
    h.append hpassed, hasked, by rw [List.append_assoc]⟩

theorem StoppedAt.append_right (h : StoppedAt first before) : StoppedAt (first ++ second) before := by
  obtain ⟨passed, stage, rest, front, last, rfl, hpassed, hasked, rfl⟩ := h
  exact ⟨passed, stage, rest ++ second, front, last, by simp, hpassed, hasked, rfl⟩

/-- After all of the first stages, progress through the others is progress through both. -/
theorem Progress.append_left {outcome : Option (Except DeployError α)}
    (h : Passed first (deeds before)) (h' : Progress second outcome later) :
    Progress (first ++ second) outcome (before ++ later) := by
  unfold Progress at h' ⊢
  rw [deeds_append]
  split at h'
  · exact h.append h'
  · exact h'.append_left h

end Stage

open Stage

/-! ### Scripts that go through stages -/

/-- The runs of the script make progress through the stages. -/
structure GoesThrough {α : Type} (stages : List Stage) (s : Engine α) : Prop where
  progress : ∀ {σ : Type} {world : World Action Action.Answer σ} {patience : Nat} {state after : σ}
    {outcome : Option (Except DeployError α)} {history : WorkHistory},
    Script.run world.recording patience s (state, []) = (outcome, after, history) →
      Progress stages outcome history

namespace GoesThrough

variable {α β : Type} {first second : List Stage} {here : Stage}

theorem done {a : α} : GoesThrough [] (.done a) := by
  refine ⟨fun hrun => ?_⟩
  cases hrun
  exact passed_nil

theorem say (level : Level) (text : String) : GoesThrough [] (Engine.say level text) := by
  refine ⟨fun hrun => ?_⟩
  cases hrun
  exact passed_nil

/-- A script that fails at once is at the first stage. -/
theorem fail {e : DeployError} (rest : List Stage) :
    GoesThrough (here :: rest) (.fail e : Engine α) := by
  refine ⟨fun hrun => ?_⟩
  cases hrun
  exact stoppedAt_cons rest fun _ _ hmem => nomatch hmem

/-- A script that does only what belongs to a stage, and whose results show that it was passed. -/
theorem stage {s : Engine α} (hasks : AsksOnly here.asks s)
    (hshown : Attests s fun _ history => here.shown (deeds history)) : GoesThrough [here] s := by
  refine ⟨fun {σ world patience state after outcome history} hrun => ?_⟩
  have hasked : AskedOnly here.asks (deeds history) :=
    fun _ _ hmem => hasks.of_mem_history hrun (List.mem_filter.mp hmem).1
  rcases outcome with _ | e | a
  · exact stoppedAt_cons [] hasked
  · exact stoppedAt_cons [] hasked
  · exact passed_singleton ⟨hasked, hshown.of_run hrun⟩

/-- The stages of a sequence; what follows may rely on what is known of the first result. -/
theorem andThen {s : Engine α} {f : α → Engine β} {mid : α → Prop} (hs : GoesThrough first s)
    (hmid : Attests s fun a _ => mid a) (hf : ∀ a, mid a → GoesThrough second (f a)) :
    GoesThrough (first ++ second) (s.andThen f) := by
  refine ⟨fun {σ world patience state after outcome history} hrun => ?_⟩
  rcases hfirst : Script.run world.recording patience s (state, []) with
    ⟨_ | ⟨e | a⟩, between, before⟩
  · rw [Script.andThen, run_handle_none hfirst] at hrun
    cases hrun
    exact (hs.progress hfirst).append_right
  · rw [run_andThen_error hfirst] at hrun
    cases hrun
    exact (hs.progress hfirst).append_right
  · rw [run_andThen_ok hfirst] at hrun
    obtain ⟨later, rfl, hrest⟩ := exists_run_recording hrun
    exact Progress.append_left (hs.progress hfirst)
      ((hf a (hmid.of_run hfirst)).progress hrest)

theorem followedBy {s : Engine α} {f : α → Engine β} (hs : GoesThrough first s)
    (hf : ∀ a, GoesThrough second (f a)) : GoesThrough (first ++ second) (s.andThen f) := by
  have hanything : Attests s fun _ _ => True := ⟨fun _ => trivial⟩
  exact hs.andThen hanything fun a _ => hf a

end GoesThrough

end Groundwork
