import Groundwork.Catalog
import Groundwork.Proofs.Duration

/-!
# What is granted for waiting

A budget is granted as many times over as the multiplier says, and 0 counts as 1
(`Budgets.times`).  What is granted is the exact product, cut off at the largest duration, so the
multiplier never shortens a wait (`granted_exact`).
-/

namespace Groundwork

namespace Budgets

/-- How many times over a waiting budget is granted. -/
def times (b : Budgets) : Nat :=
  max b.multiplier.toNat 1

theorem toNat_max_multiplier (b : Budgets) : (max b.multiplier 1).toNat = b.times := by
  have hone : (1 : UInt32).toNat = 1 := rfl
  show (if b.multiplier ≤ 1 then 1 else b.multiplier).toNat = max b.multiplier.toNat 1
  split
  all_goals
    rename_i hle
    rw [UInt32.le_iff_toNat_le] at hle
    omega

theorem scaled_eq (b : Budgets) (base : Duration) : b.scaled base = base.scale b.times := by
  rw [scaled, Duration.getD_times?, toNat_max_multiplier]

/-- The waiting budgets, each as it is given and as it is granted. -/
def waits : List ((Budgets → Duration) × (Budgets → Duration)) :=
  [(deployment, forDeployment), (namespaceDeletion, forNamespaceDeletion),
    (loadBalancer, forLoadBalancer)]

variable {given granted : Budgets → Duration}

theorem granted_eq (h : (given, granted) ∈ waits) (b : Budgets) :
    granted b = (given b).scale b.times := by
  rw [← scaled_eq]
  simp only [waits, List.mem_cons, Prod.mk.injEq, List.not_mem_nil, or_false] at h
  rcases h with ⟨rfl, rfl⟩ | ⟨rfl, rfl⟩ | ⟨rfl, rfl⟩ <;> rfl

/-- A waiting budget is granted as many times over as the multiplier says, 0 counting as 1, to the
nanosecond, and cut off at the largest duration.  So it is never shorter than it was given, and a
longer budget or a larger multiplier never make it shorter. -/
theorem granted_exact (h : (given, granted) ∈ waits) (b : Budgets) :
    (granted b).ns = min ((given b).ns * max b.multiplier.toNat 1) Duration.max.ns ∧
      (given b).ns ≤ (granted b).ns ∧
      ∀ b' : Budgets, (given b).ns ≤ (given b').ns → b.multiplier ≤ b'.multiplier →
        (granted b).ns ≤ (granted b').ns := by
  have hpos : 1 ≤ b.times := Nat.le_max_right _ _
  rw [granted_eq h]
  refine ⟨Duration.ns_scale _ _, Duration.ns_le_scale _ hpos, ?_⟩
  -- more times over, of more, is more, also where it is cut off
  intro b' hgiven hmultiplier
  have htimes : b.times ≤ b'.times := by
    rw [UInt32.le_iff_toNat_le] at hmultiplier
    simp only [times]
    omega
  rw [granted_eq h]
  exact Duration.scale_mono hgiven htimes

/-- Half of the longest time, three times over. -/
def patient : Budgets where
  multiplier := 3
  deployment := ⟨maxNanos / 2, Nat.div_le_self _ _⟩
  namespaceDeletion := ⟨1999999999, by decide⟩

/-- Budgets as `patient`, but the largest multiplier. -/
def mostPatient : Budgets :=
  { patient with multiplier := 4294967295 }

theorem granted_exact_patient :
    ((deployment, forDeployment) ∈ waits ∧ (namespaceDeletion, forNamespaceDeletion) ∈ waits ∧
      patient.multiplier ≤ mostPatient.multiplier) ∧
      patient.forDeployment.ns = maxNanos ∧
      patient.forNamespaceDeletion.ns = 5999999997 ∧
      mostPatient.forNamespaceDeletion.ns = 8589934585705032705 ∧
      patient.forNamespaceDeletion.ns ≤ mostPatient.forNamespaceDeletion.ns := by
  have hdeployment : (deployment, forDeployment) ∈ waits := List.mem_cons_self ..
  have hdeletion : (namespaceDeletion, forNamespaceDeletion) ∈ waits :=
    List.mem_cons_of_mem _ (List.mem_cons_self ..)
  have hmultiplier : patient.multiplier ≤ mostPatient.multiplier := by decide
  obtain ⟨hsaturated, -, -⟩ := granted_exact hdeployment patient
  obtain ⟨hpatient, -, hmono⟩ := granted_exact hdeletion patient
  obtain ⟨hmost, -, -⟩ := granted_exact hdeletion mostPatient
  refine ⟨⟨hdeployment, hdeletion, hmultiplier⟩, ?_, ?_, ?_, ?_⟩
  · -- three halves of the largest duration are longer than it
    rw [hsaturated]
    decide
  · -- the nanoseconds make up two seconds more
    rw [hpatient]
    decide
  · rw [hmost]
    decide
  · exact hmono mostPatient (Nat.le_refl _) hmultiplier

end Budgets

end Groundwork
