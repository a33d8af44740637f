import Groundwork.Cluster.Fake
import Groundwork.Proofs.Engine.Requests
import Groundwork.Proofs.Script.Waiting
import Groundwork.Proofs.Table

/-!
# The namespaces of a cluster in memory

`Fake.lifecycle` is what a cluster in memory knows about namespaces.  A world `Hosts` such a cluster
if its calls are answered by it and nothing else touches its namespaces.  In a hosted cluster in
which no namespace is going away, looking and running commands change nothing of it
(`Hosts.run_keeps`), and a deleted namespace is gone as soon as a wait that covers the lag is over
(`Hosts.returns_vanish`).
-/

namespace Groundwork.Cluster

open Script

/-! ### What a cluster knows -/

/-- What a cluster in memory knows about namespaces. -/
structure Lifecycle where
  namespaces : Table String Namespace
  terminating : Table String Nat
  deletionLag : Nat
  created : List String
  deleted : List String

namespace Lifecycle

/-- The namespace is gone, and its deletion is in the log. -/
def without (l : Lifecycle) (name : String) : Lifecycle :=
  { l with namespaces := Table.erase l.namespaces name, deleted := l.deleted ++ [name] }

/-- The namespace is deleted, but will be seen by `n` more looks. -/
def fading (l : Lifecycle) (name : String) (n : Nat) : Lifecycle :=
  { l with terminating := [(name, n)], deleted := l.deleted ++ [name] }

/-- The namespace is there with these labels, and its creation is in the log. -/
def withNew (l : Lifecycle) (name : String) (labels : Labels) : Lifecycle :=
  { l with
    namespaces := l.namespaces ++ [(name, ⟨some name, some labels⟩)]
    created := l.created ++ [name] }

end Lifecycle

namespace Fake

/-- What the cluster knows about namespaces. -/
def lifecycle (f : Fake) : Lifecycle :=
  ⟨f.namespaces, f.terminating, f.deletionLag, f.created, f.deleted⟩

variable {f : Fake} {l : Lifecycle} {name : String}

theorem lifecycle_answer_of_onlyLooks {c : Call} (hc : (Action.call c).OnlyLooks)
    (hf : f.lifecycle = l) (hl : l.terminating = []) : (f.answer c).2.lifecycle = l := by
  subst hf
  cases c with
  | getNamespace name =>
    replace hl : f.terminating = [] := hl
    simp [answer, look, count, Table.get?, hl, lifecycle]
  | createNamespace name labels => exact hc.elim
  | deleteNamespace name => exact hc.elim
  | _ => rfl

theorem answer_getNamespace (hf : f.lifecycle = l) (hl : l.terminating = []) :
    (f.answer (.getNamespace name)).1 = .ok (Table.get? l.namespaces name) := by
  subst hf
  replace hl : f.terminating = [] := hl
  simp [answer, look, count, Table.get?, hl, lifecycle]

theorem answer_createNamespace_of_has {labels : Labels} (hf : f.lifecycle = l)
    (hhas : Table.has l.namespaces name = true) :
    (f.answer (.createNamespace name labels)).2.lifecycle = l := by
  subst hf
  replace hhas : Table.has f.namespaces name = true := hhas
  simp [answer, create, count, hhas, lifecycle]

theorem answer_createNamespace_of_not_has {labels : Labels} (hf : f.lifecycle = l)
    (hhas : Table.has l.namespaces name = false) :
    (f.answer (.createNamespace name labels)).2.lifecycle = l.withNew name labels := by
  subst hf
  replace hhas : Table.has f.namespaces name = false := hhas
  simp [answer, create, count, hhas, lifecycle, addNamespace, Lifecycle.withNew,
    Table.put_of_not_has hhas]

theorem answer_deleteNamespace (hf : f.lifecycle = l) (hl : l.terminating = [])
    (hhas : Table.has l.namespaces name = true) :
    (f.answer (.deleteNamespace name)).2.lifecycle =
      if l.deletionLag = 0 then l.without name else l.fading name l.deletionLag := by
  subst hf
  replace hl : f.terminating = [] := hl
  replace hhas : Table.has f.namespaces name = true := hhas
  by_cases hlag : f.deletionLag = 0
  · simp [answer, delete, count, hhas, hlag, lifecycle, Lifecycle.without]
  · simp [answer, delete, count, hhas, hl, hlag, lifecycle, Lifecycle.fading, Table.put]

theorem answer_deleteNamespace_of_not_has (hhas : Table.has f.namespaces name = false) :
    (f.answer (.deleteNamespace name)).2.lifecycle = f.lifecycle := by
  simp [answer, delete, count, hhas, lifecycle]

theorem fields_of_fading {n : Nat} (hf : f.lifecycle = l.fading name n) :
    f.namespaces = l.namespaces ∧ f.terminating = [(name, n)] ∧ f.deletionLag = l.deletionLag ∧
      f.created = l.created ∧ f.deleted = l.deleted ++ [name] := by
  refine ⟨?_, ?_, ?_, ?_, ?_⟩
  · exact congrArg Lifecycle.namespaces hf
  · exact congrArg Lifecycle.terminating hf
  · exact congrArg Lifecycle.deletionLag hf
  · exact congrArg Lifecycle.created hf
  · exact congrArg Lifecycle.deleted hf

/-- A namespace that is going away and has a look left is seen once more. -/
theorem answer_fading_succ {n : Nat} (hf : f.lifecycle = l.fading name (n + 1)) :
    (f.answer (.getNamespace name)).1 = .ok (Table.get? l.namespaces name) ∧
      (f.answer (.getNamespace name)).2.lifecycle = l.fading name n := by
  obtain ⟨hnamespaces, hterminating, hlag, hcreated, hdeleted⟩ := fields_of_fading hf
  simp [answer, look, count, Table.get?, Table.put, lifecycle, Lifecycle.fading, hnamespaces,
    hterminating, hlag, hcreated, hdeleted]

/-- A namespace that is going away and has no look left vanishes. -/
theorem answer_fading_zero (hl : l.terminating = []) (hf : f.lifecycle = l.fading name 0) :
    (f.answer (.getNamespace name)).1 = .ok none ∧
      (f.answer (.getNamespace name)).2.lifecycle = l.without name := by
  obtain ⟨hnamespaces, hterminating, hlag, hcreated, hdeleted⟩ := fields_of_fading hf
  have hleft : Table.get? f.terminating name = some 0 := by
    rw [hterminating]
    exact Table.get?_singleton_self
  have hgone : Table.get? (Table.erase l.namespaces name) name = none :=
    Table.get?_erase_self l.namespaces name
  have herased : Table.erase f.terminating name = [] := by
    rw [hterminating]
    exact Table.erase_singleton_self
  simp [answer, look, count, hleft, hgone, herased, lifecycle, Lifecycle.without, hnamespaces, hlag,
    hcreated, hdeleted, hl]

end Fake

/-! ### Hosted clusters -/

/-- The world holds a cluster in memory: it answers the calls, and nothing else touches what it
knows about namespaces. -/
structure Hosts {σ : Type} (world : World Action Action.Answer σ) (cluster : σ → Fake) : Prop where
  answers : ∀ c state, (world.answer (.call c) state).1 = ((cluster state).answer c).1
  holds : ∀ c state, cluster (world.answer (.call c) state).2 = ((cluster state).answer c).2
  spares : ∀ a state, (∀ c, a ≠ .call c) →
    (cluster (world.answer a state).2).lifecycle = (cluster state).lifecycle
  sleeps : ∀ time state, (cluster (world.sleep time state)).lifecycle = (cluster state).lifecycle

namespace Hosts

variable {σ α : Type} {world : World Action Action.Answer σ} {cluster : σ → Fake} {patience : Nat}
  {l : Lifecycle} {state : σ} {name : String}

theorem answer_keeps (h : Hosts world cluster) (hl : l.terminating = []) {a : Action}
    (ha : a.LooksOrRuns) (hstate : (cluster state).lifecycle = l) :
    (cluster (world.answer a state).2).lifecycle = l := by
  -- calls are answered by the cluster, everything else spares it
  by_cases hcall : ∃ c, a = .call c
  · obtain ⟨c, rfl⟩ := hcall
    rw [h.holds]
    rcases ha with hlook | ⟨i, hi⟩
    · exact Fake.lifecycle_answer_of_onlyLooks hlook hstate hl
    · cases hi
  · rw [h.spares a state fun c hc => hcall ⟨c, hc⟩, hstate]

/-- While no namespace is going away, looks and commands change nothing about namespaces. -/
theorem run_keeps (h : Hosts world cluster) (hl : l.terminating = []) {s : Engine α}
    (hs : AsksOnly Action.LooksOrRuns s) (hstate : (cluster state).lifecycle = l) :
    (cluster (Script.run world patience s state).2).lifecycle = l := by
  apply hs.run_keeps (J := fun state => (cluster state).lifecycle = l)
  · intro a ha state hstate
    exact h.answer_keeps hl ha hstate
  · intro time state hstate
    rw [h.sleeps, hstate]
  · exact hstate

/-! ### Steps with a known result -/

theorem returns_say (h : Hosts world cluster) {level : Level} {text : String}
    (hstate : (cluster state).lifecycle = l) :
    Returns world patience (Engine.say level text) state () fun state =>
      (cluster state).lifecycle = l := by
  apply Returns.ask
  apply Returns.done
  rw [h.spares _ _ (by simp), hstate]

theorem returns_call (h : Hosts world cluster) {c : Call} {found : c.Found}
    (hanswer : ((cluster state).answer c).1 = .ok found) :
    Returns world patience (Engine.call c) state found fun after =>
      cluster after = ((cluster state).answer c).2 := by
  apply Returns.ask
  apply Returns.ofExcept
  · rw [h.answers, hanswer]
  · exact h.holds c state

theorem returns_readState (h : Hosts world cluster) (hl : l.terminating = [])
    (hstate : (cluster state).lifecycle = l) :
    Returns world patience (NamespaceState.read name) state
      (.ofFound (Table.get? l.namespaces name)) fun state => (cluster state).lifecycle = l := by
  apply (h.returns_call (Fake.answer_getNamespace hstate hl)).andThen
  intro after hafter
  apply Returns.done
  rw [hafter]
  exact Fake.lifecycle_answer_of_onlyLooks trivial hstate hl

end Hosts

/-- A cluster in memory, with programs that always do the same. -/
def Fake.worldWith (commands : Invocation → CommandOutput) : World Action Action.Answer Fake where
  answer
    | .call c, f => f.answer c
    | .run i, f => (.ok (commands i), f)
    | .connect, f => (.ok (), f)
    | .say _ _, f => ((), f)
    | .print _, f => ((), f)
    | .note _, f => ((), f)
  sleep _ f := f

theorem Fake.hosts_worldWith (commands : Invocation → CommandOutput) :
    Hosts (Fake.worldWith commands) id where
  answers _ _ := rfl
  holds _ _ := rfl
  spares a f ha := by
    cases a with
    | call c => exact absurd rfl (ha c)
    | _ => rfl
  sleeps _ _ := rfl

end Groundwork.Cluster
