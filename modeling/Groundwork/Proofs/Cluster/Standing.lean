import Groundwork.Proofs.Cluster.Lifecycle

/-!
# Namespaces that stay

A namespace `Stands` if it is there and not going away.  As long as nothing is deleted, all that a
cluster in memory goes through is that namespaces which were going away vanish, and that new ones are
created: whatever is asked, namespaces that stand go on standing (`Hosts.endures_answer`), and a
creation ends well exactly where the namespace was missing (`Fake.create_cases`).
-/

namespace Groundwork.Cluster

open Script

namespace Lifecycle

/-- Only namespaces that are there are going away. -/
def Sound (l : Lifecycle) : Prop :=
  ∀ name, Table.has l.terminating name = true → Table.has l.namespaces name = true

/-- The namespace is there, and not going away. -/
def Stands (l : Lifecycle) (name : String) : Prop :=
  Table.has l.namespaces name = true ∧ Table.has l.terminating name = false

/-- What stands in a cluster stands in what has become of it, and nothing was created. -/
structure Endures (l l' : Lifecycle) : Prop where
  sound : l.Sound → l'.Sound
  stands : ∀ name, l.Stands name → l'.Stands name
  created : l'.created = l.created

variable {l : Lifecycle} {name : String}

theorem Endures.of_eq {l l' : Lifecycle} (h : l' = l) : Endures l l' := by
  subst h
  exact ⟨id, fun _ => id, rfl⟩

theorem sound_of_terminating_eq_nil (h : l.terminating = []) : l.Sound := by
  intro name hname
  rw [h] at hname
  cases hname

/-- Where a namespace is missing it can be created, and it stands then. -/
theorem sound_withNew (hl : l.Sound) (labels : Labels) : (l.withNew name labels).Sound := by
  intro other hother
  show Table.has (l.namespaces ++ _) other = true
  rw [Table.has_append, hl other hother, Bool.true_or]

theorem stands_withNew_self (hl : l.Sound) (hfree : Table.has l.namespaces name = false)
    (labels : Labels) : (l.withNew name labels).Stands name := by
  constructor
  · show Table.has (l.namespaces ++ _) name = true
    rw [Table.has_append, Table.has_singleton, decide_eq_true rfl, Bool.or_true]
  · apply Bool.eq_false_iff.mpr
    intro hgoing
    exact absurd (hl name hgoing) (Bool.eq_false_iff.mp hfree)

theorem Stands.withNew {other : String} (h : l.Stands other) (labels : Labels) :
    (l.withNew name labels).Stands other := by
  refine ⟨?_, h.2⟩
  show Table.has (l.namespaces ++ _) other = true
  rw [Table.has_append, h.1, Bool.true_or]

end Lifecycle

namespace Fake

open Lifecycle

variable {f : Fake} {name : String}

/-- A look takes away at most the namespace that it looks at, and only if that was going away. -/
theorem endures_look (f : Fake) (name : String) : Endures f.lifecycle (f.look name).lifecycle := by
  unfold look
  split
  · exact .of_eq rfl
  · next hleft =>
    -- it has no look left, so it does not stand
    have hgoing : Table.has f.terminating name = true := by
      rw [Table.has_eq_isSome_get?, hleft]
      rfl
    refine ⟨fun hsound other hother => ?_, fun other hstands => ?_, rfl⟩
    · replace hother : Table.has (Table.erase f.terminating name) other = true := hother
      show Table.has (Table.erase f.namespaces name) other = true
      rw [Table.has_erase, Bool.and_eq_true] at hother ⊢
      exact ⟨hsound other hother.1, hother.2⟩
    · have hother : other ≠ name := by
        rintro rfl
        exact Bool.eq_false_iff.mp hstands.2 hgoing
      constructor
      · show Table.has (Table.erase f.namespaces name) other = true
        rw [Table.has_erase, decide_eq_true hother, Bool.and_true]
        exact hstands.1
      · show Table.has (Table.erase f.terminating name) other = false
        rw [Table.has_erase, decide_eq_true hother, Bool.and_true]
        exact hstands.2
  · next n hleft =>
    have hgoing : Table.has f.terminating name = true := by
      rw [Table.has_eq_isSome_get?, hleft]
      rfl
    have hsame (other : String) :
        Table.has (Table.put name n f.terminating) other = Table.has f.terminating other := by
      rw [Table.has_put]
      by_cases hother : name = other
      · rw [← hother, hgoing, Bool.true_or]
      · rw [decide_eq_false hother, Bool.or_false]
    refine ⟨fun hsound other hother => hsound other ?_, fun other hstands => ⟨hstands.1, ?_⟩, rfl⟩
    · exact (hsame other).symm.trans hother
    · exact (hsame other).trans hstands.2

theorem endures_answer {c : Call} (hc : (Action.call c).OnlyLooks) (f : Fake) :
    Endures f.lifecycle (f.answer c).2.lifecycle := by
  cases c with
  | getNamespace name => exact endures_look (f.count (.getNamespace name)) name
  | createNamespace name labels => exact hc.elim
  | deleteNamespace name => exact hc.elim
  | _ => exact .of_eq rfl

/-- A namespace is created where it is missing; elsewhere that is refused. -/
theorem create_cases (f : Fake) (name : String) (labels : Labels) :
    Table.has f.namespaces name = false ∧
        (f.answer (.createNamespace name labels)).1 = .ok () ∧
        (f.answer (.createNamespace name labels)).2.lifecycle = f.lifecycle.withNew name labels ∨
      (∃ e, (f.answer (.createNamespace name labels)).1 = .error e) ∧
        (f.answer (.createNamespace name labels)).2.lifecycle = f.lifecycle := by
  cases hhas : Table.has f.namespaces name with
  | false =>
    refine Or.inl ⟨rfl, ?_, answer_createNamespace_of_not_has rfl hhas⟩
    simp [answer, create, count, hhas]
  | true =>
    refine Or.inr ⟨?_, answer_createNamespace_of_has rfl hhas⟩
    simp [answer, create, count, hhas]

end Fake

namespace Hosts

variable {σ : Type} {world : World Action Action.Answer σ} {cluster : σ → Fake}

theorem endures_answer (h : Hosts world cluster) {a : Action} (ha : a.LooksOrRuns) (state : σ) :
    (cluster state).lifecycle.Endures (cluster (world.answer a state).2).lifecycle := by
  by_cases hcall : ∃ c, a = .call c
  · obtain ⟨c, rfl⟩ := hcall
    rw [h.holds]
    rcases ha with hlook | ⟨i, hi⟩
    · exact Fake.endures_answer hlook _
    · cases hi
  · exact .of_eq (h.spares a state fun c hc => hcall ⟨c, hc⟩)

end Hosts

end Groundwork.Cluster
