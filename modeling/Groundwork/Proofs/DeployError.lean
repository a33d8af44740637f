import Groundwork.DeployError

/-!
# Errors from within units

An error that comes from within units is wrapped with their ids, the outermost unit first
(`inUnits`).  The wrapping shows in the words alone: the root stays the same, and so do the classes,
which are those of the root.

The `cause` of an error is what is left when errors about pods are looked through as well.  An error
is a timeout just when its cause says that some budget was used up (`isTimeout_iff`), whereas its
root may still be an error `AboutPod`, which says only that the wait for a pod has failed.
-/

namespace Groundwork.DeployError

/-! ### Units around an error -/

/-- The error from within units, of which the first is the outermost. -/
def inUnits (ids : List String) (e : DeployError) : DeployError :=
  ids.foldr .inUnit e

@[simp] theorem root_inUnits (ids : List String) (e : DeployError) :
    (e.inUnits ids).root = e.root := by
  induction ids with
  | nil => rfl
  | cons id rest ih => exact ih

theorem message_inUnits (ids : List String) (e : DeployError) :
    (e.inUnits ids).message = String.join (ids.map (· ++ ": ")) ++ e.message := by
  induction ids with
  | nil => exact String.empty_append.symm
  | cons id rest ih =>
    calc (e.inUnits (id :: rest)).message
        = id ++ ": " ++ (e.inUnits rest).message := rfl
      _ = id ++ ": " ++ (String.join (rest.map (· ++ ": ")) ++ e.message) := by rw [ih]
      _ = String.join ((id :: rest).map (· ++ ": ")) ++ e.message := by
          rw [List.map_cons, String.join_cons]
          simp only [String.append_assoc]

/-! ### Roots and classes -/

/-- A root is no error from within a unit. -/
theorem root_ne_inUnit (e : DeployError) (id : String) (source : DeployError) :
    e.root ≠ .inUnit id source := by
  fun_induction root e with
  | case1 id' inner ih => exact ih
  | case2 e hunit => exact hunit id source

variable {e e' : DeployError}

theorem isNotFound_congr (h : e.root = e'.root) : e.isNotFound = e'.isNotFound := by
  rw [isNotFound, isNotFound, h]

theorem isCancelled_congr (h : e.root = e'.root) : e.isCancelled = e'.isCancelled := by
  rw [isCancelled, isCancelled, h]

theorem isTimeout_root (e : DeployError) : e.root.isTimeout = e.isTimeout := by
  fun_induction root e with
  | case1 id inner ih => exact ih
  | case2 e hunit => rfl

theorem isTimeout_congr (h : e.root = e'.root) : e.isTimeout = e'.isTimeout := by
  rw [← isTimeout_root e, ← isTimeout_root e', h]

/-! ### Causes -/

/-- The error underneath unit ids and pods. -/
def cause : DeployError → DeployError
  | .inUnit _ source => source.cause
  | .podNotReady _ _ _ source => source.cause
  | e => e

/-- A budget was used up, in a wait for anything or in that for a load balancer. -/
def IsOverdue (e : DeployError) : Prop :=
  (∃ budget, e = .timeout budget) ∨
    ∃ namespaceName service budget, e = .loadBalancerPending namespaceName service budget

/-- The root is about a pod that did not get ready, whatever the wait for it ended with. -/
def AboutPod (e : DeployError) : Prop :=
  ∃ pod namespaceName events source, e.root = .podNotReady pod namespaceName events source

/-- The root is that a selector matches no pod. -/
def FindsNoPods (e : DeployError) : Prop :=
  ∃ namespaceName selector, e.root = .noPods namespaceName selector

theorem cause_root (e : DeployError) : e.root.cause = e.cause := by
  fun_induction root e with
  | case1 id inner ih => exact ih
  | case2 e hunit => rfl

theorem root_eq_cause (h : ¬e.AboutPod) : e.root = e.cause := by
  rw [← cause_root]
  cases hroot : e.root with
  | inUnit id source => exact absurd hroot (root_ne_inUnit e id source)
  | podNotReady pod namespaceName events source =>
    exact absurd ⟨pod, namespaceName, events, source, hroot⟩ h
  | _ => rfl

theorem AboutPod.not_findsNoPods (h : e.AboutPod) : ¬e.FindsNoPods := by
  obtain ⟨pod, namespaceName, events, source, hroot⟩ := h
  rintro ⟨other, selector, hnone⟩
  cases hroot.symm.trans hnone

/-- An error is a timeout if its cause is that a budget was used up. -/
theorem isTimeout_iff (e : DeployError) : e.isTimeout = true ↔ e.cause.IsOverdue := by
  fun_induction cause e with
  | case1 id source ih => exact ih
  | case2 pod namespaceName events source ih => exact ih
  | case3 e hunit hpod => cases e <;> simp_all [isTimeout, IsOverdue]

end Groundwork.DeployError
