import Mathlib.Tactic.SplitIfs
import Groundwork.Cluster.Ownership
import Groundwork.Proofs.Script.Finishing

/-!
# What a look at a namespace means

A namespace counts as the installer's if it was found with the label (`ofFound_eq_owned_iff`), and
as absent if nothing was found (`ofFound_eq_absent_iff`).  The look itself is one call, whose failure
is that of the look (`finishes_read`).
-/

namespace Groundwork.Cluster.NamespaceState

open Script

variable {found : Option Namespace}

theorem ofFound_eq_owned_iff :
    ofFound found = .owned ↔ ∃ ns, found = some ns ∧ ns.isOwned = true := by
  cases found with
  | none => simp [ofFound]
  | some ns =>
    simp only [ofFound]
    split_ifs with howned
    · simp [howned]
    · simp [howned]

theorem ofFound_eq_absent_iff : ofFound found = .absent ↔ found = none := by
  cases found with
  | none => simp [ofFound]
  | some ns =>
    simp only [ofFound]
    split_ifs
    · simp
    · simp

theorem finishes_read (name : String) :
    Finishes (NamespaceState.read name) fun outcome history =>
      ∃ read : Except DeployError (Option Namespace),
        outcome = read.map ofFound ∧ history = [.asked (.call (.getNamespace name)) read] := by
  apply Finishes.ask
  rintro (e | found)
  · exact Finishes.fail ⟨.error e, rfl, rfl⟩
  · exact Finishes.done ⟨.ok found, rfl, rfl⟩

end Groundwork.Cluster.NamespaceState
