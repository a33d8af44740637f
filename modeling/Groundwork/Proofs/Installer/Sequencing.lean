import Mathlib.Data.List.Forall2
import Groundwork.Installer
import Groundwork.Proofs.Component.Applying
import Groundwork.Proofs.Script.Run

/-!
# Who is visited, and in which order

An installer does nothing but visit its components: it asks whether one is provided, applies it,
removes it, and tells the user.  A run is a chain of such visits, each of which starts in the state
that the one before it has left (`Chain`).

Installing and upgrading visit the components in order, each of them once, up to the first that
fails (`Sequenced`).  Removing visits all of them, the last one first, and gathers what fails
(`TornDown`).  Whatever the components are, and however their calls end, `visits_of_run` says that
every run has this shape.
-/

namespace Groundwork

open Script

/-! ### Visits -/

/-- A call of the installer, with how it ended; `none` if the call never came back. -/
inductive Visit where
  /-- Is the component provided by the cluster? -/
  | asked (c : Component) (answer : Option (Except DeployError (Option String)))
  /-- The component was installed or upgraded with these settings. -/
  | applied (c : Component) (verb : Verb) (handed : Settings)
      (outcome : Option (Except DeployError Unit))
  /-- The component was removed. -/
  | removed (c : Component) (outcome : Option (Except DeployError Unit))
  /-- The user was told something. -/
  | told (level : Level) (text : String)

section Chains

variable {σ : Type} (world : World Action Action.Answer σ) (patience : Nat)

/-- The visits follow each other, from the first state to the second. -/
inductive Chain : List Visit → σ → σ → Prop where
  | nil (state : σ) : Chain [] state state
  | asked {c : Component} {answer : Option (Except DeployError (Option String))}
      {visits : List Visit} {state mid after : σ} :
    Script.run world patience c.provided state = (answer, mid) → Chain visits mid after →
      Chain (.asked c answer :: visits) state after
  | applied {c : Component} {verb : Verb} {handed : Settings}
      {outcome : Option (Except DeployError Unit)} {visits : List Visit} {state mid after : σ} :
    Script.run world patience (c.applyBy verb handed) state = (outcome, mid) →
      Chain visits mid after → Chain (.applied c verb handed outcome :: visits) state after
  | removed {c : Component} {outcome : Option (Except DeployError Unit)} {visits : List Visit}
      {state mid after : σ} :
    Script.run world patience c.remove state = (outcome, mid) → Chain visits mid after →
      Chain (.removed c outcome :: visits) state after
  | told {level : Level} {text : String} {visits : List Visit} {state after : σ} :
    Chain visits (world.answer (.say level text) state).2 after →
      Chain (.told level text :: visits) state after

variable {world patience} {visits visits' : List Visit} {state mid after : σ}

theorem Chain.append (h : Chain world patience visits state mid)
    (h' : Chain world patience visits' mid after) :
    Chain world patience (visits ++ visits') state after := by
  induction h with
  | nil state => exact h'
  | asked hrun _ ih => exact .asked hrun (ih h')
  | applied hrun _ ih => exact .applied hrun (ih h')
  | removed hrun _ ih => exact .removed hrun (ih h')
  | told _ ih => exact .told (ih h')

end Chains

/-! ### Applying in order -/

/-- What is handed to a unit: exactly the shared settings and its own ones, in their order. -/
def Settings.HandedTo (ss : Settings) (unit : String) (handed : Settings) : Prop :=
  handed.entries = ss.entries.filter fun s => s.scope = .shared ∨ s.scope = .unit unit

theorem Settings.handedTo_viewFor (ss : Settings) (unit : String) :
    ss.HandedTo unit (ss.viewFor unit) := by
  show ss.entries.filter _ = ss.entries.filter _
  congr 1
  funext s
  exact (Bool.decide_or _ _).symm

/-- The visits to a component that lets the installer go on: the cluster provides it, or it is
applied with the settings that are its own to see. -/
inductive Passes (verb : Verb) (ss : Settings) (c : Component) : List Visit → Prop where
  | provided (reason : String) :
    Passes verb ss c [.asked c (some (.ok (some reason))),
      .told .exclamation ("Skipping " ++ c.id ++ ": " ++ reason)]
  | applied {handed : Settings} : ss.HandedTo c.id handed →
    Passes verb ss c [.asked c (some (.ok none)), .applied c verb handed (some (.ok ()))]

/-- The visits to a component that ends the run, with the error or because a call never came
back. -/
inductive Stops (verb : Verb) (ss : Settings) (c : Component) :
    List Visit → Option DeployError → Prop where
  | asking (stop : Option DeployError) : Stops verb ss c [.asked c (stop.map .error)] stop
  | applying {handed : Settings} (stop : Option DeployError) : ss.HandedTo c.id handed →
    Stops verb ss c [.asked c (some (.ok none)), .applied c verb handed (stop.map .error)] stop

/-- The visits of an installation or an upgrade, and how it ends. -/
inductive Sequenced (verb : Verb) (ss : Settings) (components : List Component) :
    List Visit → Option (Except DeployError Unit) → Prop where
  /-- All components are passed, in order and once each. -/
  | complete {parts : List (List Visit)} : List.Forall₂ (Passes verb ss) components parts →
    Sequenced verb ss components parts.flatten (some (.ok ()))
  /-- All components before one are passed.  It ends the run with its own error, and those after it
  are not visited. -/
  | stopped {before later : List Component} {c : Component} {parts : List (List Visit)}
      {last : List Visit} {stop : Option DeployError} :
    components = before ++ c :: later → List.Forall₂ (Passes verb ss) before parts →
      Stops verb ss c last stop →
        Sequenced verb ss components (parts.flatten ++ last)
          (stop.map fun e => .error (.inUnit c.id e))

namespace Sequenced

variable {verb : Verb} {ss : Settings} {c : Component} {components : List Component}
  {part visits : List Visit} {outcome : Option (Except DeployError Unit)}

/-- A component that is passed comes in front. -/
theorem cons (hpart : Passes verb ss c part) (h : Sequenced verb ss components visits outcome) :
    Sequenced verb ss (c :: components) (part ++ visits) outcome := by
  cases h with
  | complete hparts => exact .complete (.cons hpart hparts)
  | stopped hcomponents hparts hstops =>
    rw [hcomponents, ← List.append_assoc]
    exact .stopped (List.cons_append ..).symm (.cons hpart hparts) hstops

end Sequenced

namespace Installer

variable {σ : Type} (world : World Action Action.Answer σ) (patience : Nat) (verb : Verb)
  (ss : Settings)

/-- One component is passed, or it ends the run. -/
theorem visits_of_applyOne (c : Component) (state : σ) :
    ∃ part after, Chain world patience part state after ∧
      (Script.run world patience (applyOne (fun c => c.applyBy verb) ss c) state =
            (some (.ok ()), after) ∧ Passes verb ss c part ∨
        ∃ stop, Script.run world patience (applyOne (fun c => c.applyBy verb) ss c) state =
            (stop.map fun e => .error (.inUnit c.id e), after) ∧ Stops verb ss c part stop) := by
  have hhanded := ss.handedTo_viewFor c.id
  -- what comes after the question
  obtain ⟨next, hone, hsome, hnone⟩ : ∃ next : Option String → Engine Unit,
      applyOne (fun c => c.applyBy verb) ss c =
          (c.provided.andThen next).mapError (DeployError.inUnit c.id) ∧
        (∀ reason, next (some reason) =
          Engine.say .exclamation ("Skipping " ++ c.id ++ ": " ++ reason)) ∧
        next none = c.applyBy verb (ss.viewFor c.id) := ⟨_, rfl, fun _ => rfl, rfl⟩
  rw [hone]
  rcases hasked : Script.run world patience c.provided state with ⟨_ | ⟨e | ⟨_ | reason⟩⟩, mid⟩
  · refine ⟨_, mid, .asked hasked (.nil mid), Or.inr ⟨none, ?_, .asking none⟩⟩
    exact run_mapError _ (run_handle_none hasked)
  · refine ⟨_, mid, .asked hasked (.nil mid), Or.inr ⟨some e, ?_, .asking (some e)⟩⟩
    exact run_mapError _ (run_andThen_error hasked)
  · -- the component is not provided, so it is applied with what it may see
    have hnext : Script.run world patience (c.provided.andThen next) state =
        Script.run world patience (c.applyBy verb (ss.viewFor c.id)) mid := by
      rw [run_andThen_ok hasked, hnone]
    rcases happlied : Script.run world patience (c.applyBy verb (ss.viewFor c.id)) mid with
      ⟨_ | ⟨e | _⟩, after⟩
    · refine ⟨_, after, .asked hasked (.applied happlied (.nil after)),
        Or.inr ⟨none, ?_, .applying none hhanded⟩⟩
      exact run_mapError _ (hnext.trans happlied)
    · refine ⟨_, after, .asked hasked (.applied happlied (.nil after)),
        Or.inr ⟨some e, ?_, .applying (some e) hhanded⟩⟩
      exact run_mapError _ (hnext.trans happlied)
    · refine ⟨_, after, .asked hasked (.applied happlied (.nil after)),
        Or.inl ⟨?_, .applied hhanded⟩⟩
      exact run_mapError _ (hnext.trans happlied)
  · have hnext : Script.run world patience (c.provided.andThen next) state =
        Script.run world patience
          (Engine.say .exclamation ("Skipping " ++ c.id ++ ": " ++ reason)) mid := by
      rw [run_andThen_ok hasked, hsome]
    refine ⟨_, _, .asked hasked (.told (.nil _)), Or.inl ⟨?_, .provided reason⟩⟩
    exact run_mapError _ (hnext.trans rfl)

theorem visits_of_applyAll (components : List Component) (state : σ) :
    ∃ visits after outcome, Chain world patience visits state after ∧
      Script.run world patience (applyAll (fun c => c.applyBy verb) ss components) state =
        (outcome, after) ∧ Sequenced verb ss components visits outcome := by
  induction components generalizing state with
  | nil => exact ⟨[], state, some (.ok ()), .nil state, rfl, .complete .nil⟩
  | cons c rest ih =>
    obtain ⟨part, mid, hpart, ⟨hone, hpasses⟩ | ⟨stop, hone, hstops⟩⟩ :=
      visits_of_applyOne world patience verb ss c state
    · obtain ⟨visits, after, outcome, hvisits, hrest, hsequenced⟩ := ih mid
      exact ⟨part ++ visits, after, outcome, hpart.append hvisits,
        (run_andThen_ok hone).trans hrest, .cons hpasses hsequenced⟩
    · refine ⟨part, mid, _, hpart, ?_, .stopped (List.nil_append _).symm .nil hstops⟩
      -- an error ends the run, and so does a call that never comes back
      cases stop with
      | none => exact run_handle_none hone
      | some e => exact run_andThen_error hone

end Installer

/-! ### Removing in reverse -/

namespace Installer

/-- The visits to a component whose removal came back: a failure is told. -/
def removal : Component × Except DeployError Unit → List Visit
  | (c, .ok a) => [.removed c (some (.ok a))]
  | (c, .error e) => [.removed c (some (.error e)),
      .told .problem ("Failed to remove " ++ c.id ++ ": " ++ e.message)]

/-- The failures among the results, each with the id of its component. -/
def failures (results : List (Component × Except DeployError Unit)) : List DeployError :=
  results.filterMap fun
    | (_, .ok _) => none
    | (c, .error e) => some (.inUnit c.id e)

theorem failures_cons (result : Component × Except DeployError Unit)
    (results : List (Component × Except DeployError Unit)) :
    failures (result :: results) = failures [result] ++ failures results := by
  rcases result with ⟨c, e | a⟩ <;> rfl

theorem failures_eq_nil_iff {results : List (Component × Except DeployError Unit)} :
    failures results = [] ↔ ∀ r ∈ results, r.2 = .ok () := by
  rw [failures, List.filterMap_eq_nil_iff]
  refine forall₂_congr fun r _ => ?_
  rcases r with ⟨c, e | a⟩ <;> simp

/-- The visits of a removal, and how it ends. -/
inductive TornDown (components : List Component) :
    List Visit → Option (Except DeployError Unit) → Prop where
  /-- Every component is removed, the last one first. -/
  | clean {results : List (Component × Except DeployError Unit)} :
    results.map Prod.fst = components.reverse → (∀ r ∈ results, r.2 = .ok ()) →
      TornDown components (results.flatMap removal) (some (.ok ()))
  /-- Some cannot be removed.  All are tried, and the failures are reported in their order. -/
  | failed {results : List (Component × Except DeployError Unit)} :
    results.map Prod.fst = components.reverse → (¬∀ r ∈ results, r.2 = .ok ()) →
      TornDown components (results.flatMap removal)
        (some (.error (.uninstall (failures results))))
  /-- The removal of one never comes back. -/
  | stuck {results : List (Component × Except DeployError Unit)} {c : Component}
      {later : List Component} :
    components.reverse = results.map Prod.fst ++ c :: later →
      TornDown components (results.flatMap removal ++ [.removed c none]) none

variable {σ : Type} (world : World Action Action.Answer σ) (patience : Nat)

/-- The removal of the first component comes back or it does not.  If it does, the others are
removed all the same, and a failure is put in front of theirs. -/
theorem visits_of_removeFirst (c : Component) (rest : List Component) (state : σ) :
    (∃ mid, Chain world patience [.removed c none] state mid ∧
      Script.run world patience (removeAll (c :: rest)) state = (none, mid)) ∨
    ∃ result mid, Chain world patience (removal (c, result)) state mid ∧
      Script.run world patience (removeAll (c :: rest)) state =
        Script.run world patience
          ((removeAll rest).andThen fun others =>
            .done (failures [(c, result)] ++ others)) mid := by
  rcases hremoved : Script.run world patience c.remove state with ⟨_ | ⟨e | a⟩, mid⟩
  · refine Or.inl ⟨mid, .removed hremoved (.nil mid), ?_⟩
    exact run_handle_none (run_handle_none hremoved)
  · refine Or.inr ⟨.error e, _, .removed hremoved (.told (.nil _)), ?_⟩
    exact run_andThen_ok (run_attempt hremoved)
  · refine Or.inr ⟨.ok a, mid, .removed hremoved (.nil mid), ?_⟩
    -- nothing is put in front of the failures of the others
    have hdone : (removeAll rest).andThen (fun others =>
        .done (failures [(c, .ok a)] ++ others)) = removeAll rest := andThen_done (removeAll rest)
    rw [hdone]
    exact run_andThen_ok (run_attempt hremoved)

theorem visits_of_removeAll (components : List Component) (state : σ) :
    ∃ results visits after, Chain world patience visits state after ∧
      (Script.run world patience (removeAll components) state =
          (some (.ok (failures results)), after) ∧
          results.map Prod.fst = components ∧ visits = results.flatMap removal ∨
        Script.run world patience (removeAll components) state = (none, after) ∧
          ∃ c later, components = results.map Prod.fst ++ c :: later ∧
            visits = results.flatMap removal ++ [.removed c none]) := by
  induction components generalizing state with
  | nil => exact ⟨[], [], state, .nil state, Or.inl ⟨rfl, rfl, rfl⟩⟩
  | cons c rest ih =>
    obtain ⟨mid, hchain, hrun⟩ | ⟨result, mid, hchain, hstep⟩ :=
      visits_of_removeFirst world patience c rest state
    · exact ⟨[], _, mid, hchain, Or.inr ⟨hrun, c, rest, rfl, rfl⟩⟩
    · -- its failure, if any, is the first of those gathered from here on
      obtain ⟨results, visits, after, hvisits, hrest⟩ := ih mid
      refine ⟨(c, result) :: results, removal (c, result) ++ visits, after,
        hchain.append hvisits, ?_⟩
      have hfailures := failures_cons (c, result) results
      rcases hrest with ⟨hrun, rfl, rfl⟩ | ⟨hrun, stuck, later, rfl, rfl⟩
      · refine Or.inl ⟨?_, rfl, rfl⟩
        rw [hfailures, hstep, run_andThen_ok hrun]
        rfl
      · refine Or.inr ⟨?_, stuck, later, rfl, ?_⟩
        · rw [hstep]
          exact run_handle_none hrun
        · rw [List.flatMap_cons, List.append_assoc]

theorem visits_of_uninstall (i : Installer) (state : σ) :
    ∃ visits after outcome, Chain world patience visits state after ∧
      Script.run world patience i.uninstall state = (outcome, after) ∧
      TornDown i.components visits outcome := by
  obtain ⟨results, visits, after, hvisits,
      ⟨hrun, hresults, rfl⟩ | ⟨hrun, c, later, hresults, rfl⟩⟩ :=
    visits_of_removeAll world patience i.components.reverse state
  · -- what comes after all have been tried
    obtain ⟨next, huninstall, hnil, hcons⟩ : ∃ next : List DeployError → Engine Unit,
        i.uninstall = (removeAll i.components.reverse).andThen next ∧ next [] = .done () ∧
          ∀ e others, next (e :: others) = .fail (.uninstall (e :: others)) :=
      ⟨_, rfl, rfl, fun _ _ => rfl⟩
    have hstep : Script.run world patience i.uninstall state =
        Script.run world patience (next (failures results)) after := by
      rw [huninstall, run_andThen_ok hrun]
    by_cases hok : ∀ r ∈ results, r.2 = .ok ()
    · refine ⟨_, after, _, hvisits, ?_, .clean hresults hok⟩
      rw [hstep, failures_eq_nil_iff.mpr hok, hnil]
      rfl
    · refine ⟨_, after, _, hvisits, ?_, .failed hresults hok⟩
      obtain ⟨e, others, hsome⟩ := List.exists_cons_of_ne_nil (mt failures_eq_nil_iff.mp hok)
      rw [hstep, hsome, hcons]
      rfl
  · exact ⟨_, after, none, hvisits, run_handle_none hrun, .stuck hresults⟩

/-- Installs or upgrades every component. -/
def applyBy (i : Installer) : Verb → Engine Unit
  | .install => i.install
  | .upgrade => i.upgrade

theorem applyBy_eq (i : Installer) (verb : Verb) :
    i.applyBy verb = applyAll (fun c => c.applyBy verb) i.settings i.components := by
  cases verb <;> rfl

/-- Whatever the components are and however their calls end, an installer visits them in this way:
forwards up to the first failure to install or to upgrade, and backwards past all failures to
remove.  Nothing is done between the visits, so they account for all that happens in any world,
also in one that records it. -/
theorem visits_of_run (i : Installer) (state : σ) :
    (∀ verb, ∃ visits after outcome, Chain world patience visits state after ∧
      Script.run world patience (i.applyBy verb) state = (outcome, after) ∧
      Sequenced verb i.settings i.components visits outcome) ∧
    ∃ visits after outcome, Chain world patience visits state after ∧
      Script.run world patience i.uninstall state = (outcome, after) ∧
      TornDown i.components visits outcome := by
  refine ⟨?_, visits_of_uninstall world patience i state⟩
  intro verb
  rw [applyBy_eq]
  exact visits_of_applyAll world patience verb i.settings i.components state

end Installer

end Groundwork
