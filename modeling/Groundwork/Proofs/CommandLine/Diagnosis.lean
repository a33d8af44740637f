import Groundwork.CommandLine.Program
import Groundwork.Engine.Rehearsal
import Groundwork.Proofs.DeployError
import Groundwork.Proofs.Script.Run

/-!
# What diagnoses keep of an error

A diagnosis has a class, words and advice; only the cancelled one has no words.  Two diagnoses are
`Alike` if they differ at most in their words.  The exit code and whether the user said no depend on
the class alone, so two diagnoses are alike if they have the same class and the same advice.

The diagnosis of an error of the engine takes its class and its advice from the root, and its words
from the whole error (`alike_ofDeploy`, `words?_ofDeploy`).  So units around an error show in the
words alone (`ofDeploy_inUnits`).

Two kinds of errors get a class that the error itself does not ask for.  The engine's errors of the
setup are all told as errors of settings, also those about the catalog or a file, which have
classes of their own when the engine has no part in them (`alike_setup_iff`).  And errors about pods
are all told as waits that took too long, also if the wait was ended by something else
(`exitCode_ofDeploy_timeout`).
-/

namespace Groundwork

/-! ### Errors of the setup -/

/-- What errors of the setup are about: a setting and its value, the catalog, or a file. -/
inductive SetupError.Subject where
  | setting
  | catalog
  | file
  deriving DecidableEq

/-- What an error of the setup is about. -/
def SetupError.subject : SetupError → Subject
  | .missing _ _ => .setting
  | .unknown _ => .setting
  | .wrongKind _ _ _ => .setting
  | .invalidValue _ _ _ => .setting
  | .input _ _ => .setting
  | .catalog _ => .catalog
  | .unreadable _ => .catalog
  | .io _ => .file

namespace CommandLine.Diagnosis

open DeployError

/-! ### Classes and words -/

/-- The classes of diagnoses. -/
inductive Category where
  | setting
  | precondition
  | command
  | timeout
  | cluster
  | config
  | io
  | cancelled
  | other
  deriving DecidableEq

/-- The class of a diagnosis. -/
def category : Diagnosis → Category
  | .setting _ _ => .setting
  | .precondition _ => .precondition
  | .command _ => .command
  | .timeout _ => .timeout
  | .cluster _ => .cluster
  | .config _ => .config
  | .io _ => .io
  | .cancelled => .cancelled
  | .other _ => .other

/-- The words that a diagnosis carries. -/
def words? : Diagnosis → Option String
  | .setting words _ => some words
  | .precondition words => some words
  | .command words => some words
  | .timeout words => some words
  | .cluster words => some words
  | .config words => some words
  | .io words => some words
  | .cancelled => none
  | .other words => some words

/-- What the user sees in front of the words of a class. -/
def Category.heading : Category → String
  | .cluster => "Cluster error: "
  | .config => "Configuration error: "
  | .io => "IO error: "
  | _ => ""

/-- The exit code of the diagnoses of a class. -/
def Category.exitCode : Category → Nat
  | .setting => 2
  | .precondition => 3
  | .command => 4
  | .timeout => 5
  | .config => 6
  | .cancelled => 0
  | .cluster => 1
  | .io => 1
  | .other => 1

/-- The diagnoses differ at most in their words. -/
structure Alike (d d' : Diagnosis) : Prop where
  category : d.category = d'.category
  exitCode : d.exitCode = d'.exitCode
  isCancelled : d.isCancelled = d'.isCancelled
  help : d.help = d'.help

variable {d d' : Diagnosis}

theorem exitCode_eq (d : Diagnosis) : d.exitCode = d.category.exitCode := by
  cases d <;> rfl

theorem isCancelled_eq (d : Diagnosis) : d.isCancelled = decide (d.category = .cancelled) := by
  cases d <;> rfl

/-- The exit code and whether the user said no depend on the class alone. -/
theorem Alike.of_category_help (hcategory : d.category = d'.category) (hhelp : d.help = d'.help) :
    Alike d d' where
  category := hcategory
  exitCode := by rw [exitCode_eq, exitCode_eq, hcategory]
  isCancelled := by rw [isCancelled_eq, isCancelled_eq, hcategory]
  help := hhelp

/-- What the user sees of a diagnosis: its words under the heading of its class. -/
theorem message_eq (d : Diagnosis) :
    d.message = (d.words?.map (d.category.heading ++ ·)).getD "Cancelled" := by
  cases d with
  | cluster words => rfl
  | config words => rfl
  | io words => rfl
  | cancelled => rfl
  | _ => exact String.empty_append.symm

/-- No other class shares the exit code of the timeouts. -/
theorem exitCode_eq_five_iff : d.exitCode = 5 ↔ d.category = .timeout := by
  rw [exitCode_eq]
  cases d.category <;> decide

/-! ### Errors of the engine -/

variable {e e' : DeployError}

/-- The class and the advice are those of the root. -/
theorem alike_ofDeploy (h : e.root = e'.root) : Alike (ofDeploy e) (ofDeploy e') := by
  have hsame (r : DeployError) (hr : e.root = r) (hr' : e'.root = r) :
      (ofDeploy e).category = (ofDeploy e').category ∧ (ofDeploy e).help = (ofDeploy e').help := by
    unfold ofDeploy
    rw [hr, hr']
    cases r with
    | setup x => cases x <;> exact ⟨rfl, rfl⟩
    | _ => exact ⟨rfl, rfl⟩
  obtain ⟨hcategory, hhelp⟩ := hsame e'.root h rfl
  exact .of_category_help hcategory hhelp

/-- The words are those of the whole error, unless the user said no. -/
theorem words?_ofDeploy (e : DeployError) :
    (ofDeploy e).words? = if e.isCancelled = true then none else some e.message := by
  unfold ofDeploy DeployError.isCancelled
  cases e.root with
  | setup x => cases x <;> rfl
  | _ => rfl

theorem isCancelled_ofDeploy (e : DeployError) : (ofDeploy e).isCancelled = e.isCancelled := by
  unfold ofDeploy DeployError.isCancelled
  cases e.root with
  | setup x => cases x <;> rfl
  | _ => rfl

/-- Units around an error are transparent: neither its root nor its classes change, nor does its
diagnosis but for the words.  The words of the error get the ids in front of them, the outermost
first, and whatever is not cancelled carries them in full. -/
theorem ofDeploy_inUnits (ids : List String) (e : DeployError) :
    ((e.inUnits ids).root = e.root ∧ (e.inUnits ids).isNotFound = e.isNotFound ∧
      (e.inUnits ids).isCancelled = e.isCancelled ∧ (e.inUnits ids).isTimeout = e.isTimeout) ∧
    Alike (ofDeploy (e.inUnits ids)) (ofDeploy e) ∧
    (e.inUnits ids).message = String.join (ids.map (· ++ ": ")) ++ e.message ∧
    (ofDeploy (e.inUnits ids)).words? =
      (if (ofDeploy e).isCancelled = true then none else some (e.inUnits ids).message) ∧
    (ofDeploy (e.inUnits ids)).message =
      if (ofDeploy e).isCancelled = true then "Cancelled"
      else (ofDeploy e).category.heading ++ (e.inUnits ids).message := by
  have hroot : (e.inUnits ids).root = e.root := root_inUnits ids e
  have halike : Alike (ofDeploy (e.inUnits ids)) (ofDeploy e) := alike_ofDeploy hroot
  have hwords : (ofDeploy (e.inUnits ids)).words? =
      if (ofDeploy e).isCancelled = true then none else some (e.inUnits ids).message := by
    rw [words?_ofDeploy, isCancelled_ofDeploy, isCancelled_congr hroot]
  refine ⟨⟨hroot, isNotFound_congr hroot, isCancelled_congr hroot, isTimeout_congr hroot⟩,
    halike, message_inUnits ids e, hwords, ?_⟩
  rw [message_eq, hwords, halike.category]
  split <;> rfl

/-! ### The engine's errors of the setup -/

theorem category_ofSetup (x : SetupError) :
    (ofSetup x).category =
      match x.subject with
      | .setting => .setting
      | .catalog => .config
      | .file => .io := by
  cases x <;> rfl

/-- The engine's errors about the setup are all taken for errors about settings, and get the same
advice as they get themselves. -/
theorem ofDeploy_setup (x : SetupError) (ids : List String) :
    (ofDeploy ((DeployError.setup x).inUnits ids)).category = .setting ∧
      (ofDeploy ((DeployError.setup x).inUnits ids)).help = (ofSetup x).help := by
  have halike : Alike (ofDeploy ((DeployError.setup x).inUnits ids)) (ofDeploy (.setup x)) :=
    alike_ofDeploy (root_inUnits ids _)
  rw [halike.category, halike.help]
  cases x <;> exact ⟨rfl, rfl⟩

/-- An error of the setup that comes through the engine, from within any units, gets the diagnosis
that it gets directly, but for the words, if and only if it is about a setting.  One about the
catalog or a file is taken for one about a setting, and so gets another class and exit code, and the
same advice. -/
theorem alike_setup_iff (x : SetupError) (ids : List String) :
    (Alike (ofDeploy ((DeployError.setup x).inUnits ids)) (ofSetup x) ↔ x.subject = .setting) ∧
    (ofDeploy ((DeployError.setup x).inUnits ids)).help = (ofSetup x).help ∧
    (ofDeploy ((DeployError.setup x).inUnits ids)).exitCode = 2 ∧
    (ofSetup x).exitCode =
      match x.subject with
      | .setting => 2
      | .catalog => 6
      | .file => 1 := by
  obtain ⟨hcategory, hhelp⟩ := ofDeploy_setup x ids
  refine ⟨⟨fun halike => ?_, fun hsetting => ?_⟩, hhelp, ?_, ?_⟩
  · have hsame : Category.setting = (ofSetup x).category := hcategory.symm.trans halike.category
    rw [category_ofSetup] at hsame
    cases hsubject : x.subject with
    | setting => rfl
    | catalog => rw [hsubject] at hsame; cases hsame
    | file => rw [hsubject] at hsame; cases hsame
  · refine .of_category_help ?_ hhelp
    rw [hcategory, category_ofSetup, hsetting]
  · rw [exitCode_eq, hcategory]
    rfl
  · cases x <;> rfl

/-- A catalog of one unit whose setting has a default of the wrong kind. -/
def mistyped : Catalog where
  units :=
    [{ id := "web", kind := .manifest, manifest := some "web.yaml"
       settings := [{ name := "port", kind := .integer, default := some (.string "http") }] }]

/-- The fault that the check of the catalog finds is told as one of a setting when the installer
finds it. -/
theorem not_alike_mistyped :
    ∃ fault, mistyped.check = .error fault ∧
      gatheredInstaller mistyped =
        .error (ofDeploy ((DeployError.setup (.catalog fault)).inUnits [])) ∧
      ¬Alike (ofDeploy ((DeployError.setup (.catalog fault)).inUnits []))
        (ofSetup (.catalog fault)) ∧
      (ofDeploy ((DeployError.setup (.catalog fault)).inUnits [])).exitCode = 2 ∧
      (ofSetup (.catalog fault)).exitCode = 6 := by
  refine ⟨_, rfl, rfl, fun halike => ?_, rfl, rfl⟩
  cases halike.category

/-! ### Waits -/

theorem category_ofDeploy_eq_timeout_iff (e : DeployError) :
    (ofDeploy e).category = .timeout ↔ e.root.IsOverdue ∨ e.AboutPod ∨ e.FindsNoPods := by
  unfold ofDeploy AboutPod FindsNoPods IsOverdue
  cases e.root with
  | setup x => cases x <;> simp [category]
  | _ => simp [category]

/-- A wait for a pod fails with an error about a pod, whatever ended it. -/
theorem aboutPod_of_awaitPod {σ : Type} {world : Script.World Action Action.Answer σ}
    {patience : Nat} {namespaceName name : String} {budget : Duration} {state after : σ}
    {e : DeployError}
    (h : Script.run world patience (Cluster.awaitPod namespaceName name budget) state =
      (some (.error e), after)) : e.AboutPod := by
  obtain ⟨first, mid, -, hrest⟩ := Script.exists_run_of_handle h
  cases first with
  | ok seen => cases hrest
  | error cause =>
    -- looking up the events for the error does not fail
    obtain ⟨listed, later, hlisted, hthrow⟩ := Script.exists_run_of_handle hrest
    cases listed with
    | ok events =>
      cases hthrow
      exact ⟨_, _, _, _, rfl⟩
    | error e' =>
      obtain ⟨found, latest, -, hdone⟩ := Script.exists_run_of_handle hlisted
      cases hdone

/-- The exit code of the timeouts, with the advice about slow clusters, is that of the errors that
are timeouts or find no pods, and of all errors about pods.  So it belongs to the errors of the
first two kinds alone if and only if an error about a pod comes from a budget that was used up; and
every wait for a pod that fails has it, whatever ended the wait. -/
theorem exitCode_ofDeploy_timeout (e : DeployError) :
    ((ofDeploy e).exitCode = 5 ↔ e.isTimeout = true ∨ e.FindsNoPods ∨ e.AboutPod) ∧
    (((ofDeploy e).exitCode = 5 ↔ e.isTimeout = true ∨ e.FindsNoPods) ↔
      (e.AboutPod → e.cause.IsOverdue)) ∧
    ((ofDeploy e).exitCode = 5 →
      (ofDeploy e).help = some "Slow cluster? Retry with --timeout-multiplier 2") ∧
    ∀ {σ : Type} (world : Script.World Action Action.Answer σ) (patience : Nat)
      (namespaceName name : String) (budget : Duration) (state after : σ),
      Script.run world patience (Cluster.awaitPod namespaceName name budget) state =
        (some (.error e), after) → (ofDeploy e).exitCode = 5 := by
  have hcode : (ofDeploy e).exitCode = 5 ↔ e.isTimeout = true ∨ e.FindsNoPods ∨ e.AboutPod := by
    rw [exitCode_eq_five_iff, category_ofDeploy_eq_timeout_iff, isTimeout_iff]
    by_cases hpod : e.AboutPod
    · simp only [hpod, true_or, or_true]
    · rw [root_eq_cause hpod, or_comm (a := e.AboutPod)]
  refine ⟨hcode, ?_, ?_, ?_⟩
  · rw [hcode, ← isTimeout_iff]
    constructor
    · intro hsame hpod
      exact (hsame.mp (Or.inr (Or.inr hpod))).resolve_right hpod.not_findsNoPods
    · intro hoverdue
      constructor
      · rintro (htimeout | hnone | hpod)
        · exact Or.inl htimeout
        · exact Or.inr hnone
        · exact Or.inl (hoverdue hpod)
      · rintro (htimeout | hnone)
        · exact Or.inl htimeout
        · exact Or.inr (Or.inl hnone)
  · rw [exitCode_eq_five_iff]
    intro htimeout
    cases hd : ofDeploy e <;> rw [hd] at htimeout <;> first | rfl | cases htimeout
  · intro σ world patience namespaceName name budget state after hrun
    exact hcode.mpr (Or.inr (Or.inr (aboutPod_of_awaitPod hrun)))

/-- A cluster whose pod waits for its image. -/
def sluggish : Rehearsal where
  scenario := { cluster := { pods := [Cluster.Specimen.waitingPod "web" "web-0" []] } }

/-- An error about a pod whose budget was used up. -/
theorem exitCode_ofDeploy_timeout_sluggish :
    ∃ e after,
      Script.run Rehearsal.world 0 (Cluster.awaitPod "web" "web-0" (.ofSeconds 2)) sluggish =
        (some (.error e), after) ∧
      e.cause = .timeout (.ofSeconds 2) ∧ (ofDeploy e).exitCode = 5 ∧
      ((ofDeploy e).exitCode = 5 ↔ e.isTimeout = true ∨ e.FindsNoPods) := by
  refine ⟨_, _, rfl, rfl, ?_, ?_⟩
  · exact (exitCode_ofDeploy_timeout _).2.2.2 Rehearsal.world 0 "web" "web-0" (.ofSeconds 2)
      sluggish _ rfl
  · exact (exitCode_ofDeploy_timeout _).2.1.mpr fun _ => Or.inl ⟨.ofSeconds 2, rfl⟩

/-- What the API server answers to someone who may not look at pods. -/
def forbidden : DeployError :=
  .api (.refused { status := "Failure", message := "pods \"web-0\" is forbidden",
                   reason := "Forbidden", code := 403 })

/-- A cluster that lets nobody look at its pods. -/
def secretive : Rehearsal where
  scenario := { faults := [{ call := "get_pod", trouble := .fails forbidden }] }

/-- A wait that ends at once, since the pod cannot be looked at, is told as one that took too
long. -/
theorem exitCode_ofDeploy_secretive :
    ∃ e after,
      Script.run Rehearsal.world 0 (Cluster.awaitPod "web" "web-0" (.ofSeconds 2)) secretive =
        (some (.error e), after) ∧
      after.clock = 0 ∧ e.cause = forbidden ∧ e.isTimeout = false ∧ ¬e.FindsNoPods ∧
      (ofDeploy e).exitCode = 5 := by
  refine ⟨_, _, rfl, rfl, rfl, rfl, ?_, rfl⟩
  rintro ⟨namespaceName, selector, hnone⟩
  cases hnone

end CommandLine.Diagnosis

end Groundwork
