import Groundwork.Proofs.Cluster.Lifecycle
import Groundwork.Proofs.Component.Building

/-!
# Installing only adds namespaces

However an installation ends, also when it fails or is broken off, it has changed the namespaces of
a hosted cluster in one way: it has created namespaces of its own for some of the units, in their
order, none of which was there before (`Hosts.applyAll_grows`).
-/

namespace Groundwork

open Script Cluster

/-! ### What installing asks -/

/-- The action changes namespaces at most by creating this one, with the label of the installer. -/
def Action.CreatesOnly (id : String) (a : Action) : Prop :=
  a.LooksOrRuns ∨ a = .call (.createNamespace id ownerLabels)

theorem Engine.createsOnly_of_looksOrRuns {α : Type} {id : String} {s : Engine α}
    (h : AsksOnly Action.LooksOrRuns s) : AsksOnly (Action.CreatesOnly id) s :=
  h.mono fun _ => Or.inl

theorem Engine.createsOnly_of_onlyLooks {α : Type} {id : String} {s : Engine α}
    (h : AsksOnly Action.OnlyLooks s) : AsksOnly (Action.CreatesOnly id) s :=
  createsOnly_of_looksOrRuns (looksOrRuns_of_onlyLooks h)

theorem ChartUnit.asksOnly_installWith (u : ChartUnit) (settings : Settings)
    (extra : List (String × String)) :
    AsksOnly (Action.CreatesOnly u.spec.id) (u.installWith settings extra) := by
  apply (Engine.asksOnly_ofSetup _).andThen
  intro skipped
  cases skipped with
  | some reason =>
    apply Engine.createsOnly_of_onlyLooks
    exact (Engine.asksOnly_say _ _).andThen fun _ => trivial
  | none =>
    apply (Engine.createsOnly_of_onlyLooks (asksOnly_guardInstall trivial)).andThen
    intro _
    apply (Engine.createsOnly_of_onlyLooks (Engine.asksOnly_say _ _)).andThen
    intro _
    apply (Engine.asksOnly_call (Or.inr rfl)).andThen
    intro _
    apply (Engine.createsOnly_of_looksOrRuns (u.asksOnly_apply _ _ _)).andThen
    intro _
    apply Engine.createsOnly_of_onlyLooks
    exact (Engine.asksOnly_say _ _).andThen fun _ => trivial

theorem IngressUnit.asksOnly_exposed (u : IngressUnit) {id : String}
    {apply : List (String × String) → Engine Bool}
    (happly : ∀ values, AsksOnly (Action.CreatesOnly id) (apply values)) :
    AsksOnly (Action.CreatesOnly id) (u.exposed apply) := by
  apply (Engine.createsOnly_of_onlyLooks (asksOnly_exposure trivial trivial)).andThen
  rintro ⟨values, balanced⟩
  apply (happly values).andThen
  intro applied
  split
  · exact Engine.createsOnly_of_onlyLooks u.asksOnly_awaitReachable
  · trivial

namespace Component

variable {spec : UnitSpec} {budgets : Budgets} {c : Component}

theorem asksOnly_install (hc : ofSpec spec budgets = .ok c) (settings : Settings) :
    AsksOnly (Action.CreatesOnly c.id) (c.install settings) := by
  obtain ⟨u, -, -, -, hkind⟩ := cases_of_ofSpec hc
  rcases hkind with rfl | rfl
  · exact (u.asksOnly_installWith settings []).andThen fun _ => trivial
  · exact IngressUnit.asksOnly_exposed ⟨u⟩ fun values => u.asksOnly_installWith settings values

theorem asksOnly_provided (hc : ofSpec spec budgets = .ok c) :
    AsksOnly Action.OnlyLooks c.provided := by
  obtain ⟨u, -, -, -, hkind⟩ := cases_of_ofSpec hc
  rcases hkind with rfl | rfl
  · trivial
  · exact IngressUnit.asksOnly_provided ⟨u⟩

theorem asksOnly_installOne (hc : ofSpec spec budgets = .ok c) (settings : Settings) :
    AsksOnly (Action.CreatesOnly c.id) (Installer.applyOne install settings c) := by
  apply AsksOnly.mapError
  apply (Engine.createsOnly_of_onlyLooks (asksOnly_provided hc)).andThen
  intro reason
  cases reason with
  | some reason => exact Engine.createsOnly_of_onlyLooks (Engine.asksOnly_say _ _)
  | none => exact asksOnly_install hc _

end Component

/-! ### What it leaves -/

namespace Cluster

namespace Lifecycle

/-- The entry of a namespace that the installer creates. -/
def ownedEntry (name : String) : String × Namespace :=
  (name, ⟨some name, some ownerLabels⟩)

theorem isOwned_ownedEntry (name : String) : (ownedEntry name).2.isOwned = true := by
  simp [ownedEntry, Namespace.isOwned, ownerLabels, Table.get?]

/-- What the cluster knows after these namespaces of the installer were created. -/
def withOwned (l : Lifecycle) (names : List String) : Lifecycle :=
  { l with
    namespaces := l.namespaces ++ names.map ownedEntry
    created := l.created ++ names }

/-- Since `base`, only namespaces of the installer were created, for some of the ids, in their
order; none of them was there before. -/
def GrownFrom (base : Lifecycle) (ids : List String) (l : Lifecycle) : Prop :=
  ∃ names, l = base.withOwned names ∧ names.Sublist ids ∧
    ∀ name ∈ names, Table.has base.namespaces name = false

variable {base l : Lifecycle} {ids ids' : List String} {id : String}

theorem grownFrom_self (base : Lifecycle) : GrownFrom base [] base :=
  ⟨[], by simp [withOwned], List.Sublist.refl _, by simp⟩

theorem GrownFrom.mono (h : GrownFrom base ids l) (hids : ids.Sublist ids') :
    GrownFrom base ids' l := by
  obtain ⟨names, hl, hnames, hfree⟩ := h
  exact ⟨names, hl, hnames.trans hids, hfree⟩

theorem GrownFrom.terminating (h : GrownFrom base ids l) : l.terminating = base.terminating := by
  obtain ⟨names, rfl, -, -⟩ := h
  rfl

theorem has_map_ownedEntry (names : List String) (name : String) :
    Table.has (names.map ownedEntry) name = decide (name ∈ names) := by
  rw [Table.has, List.any_map, Bool.eq_iff_iff, List.any_eq_true, decide_eq_true_iff]
  constructor
  · rintro ⟨other, hmem, hother⟩
    exact of_decide_eq_true hother ▸ hmem
  · exact fun hmem => ⟨name, hmem, decide_eq_true rfl⟩

theorem get?_map_ownedEntry {names : List String} {name : String} (h : name ∈ names) :
    Table.get? (names.map ownedEntry) name = some ⟨some name, some ownerLabels⟩ := by
  induction names with
  | nil => cases h
  | cons first rest ih =>
    rw [List.map_cons, ← List.singleton_append, Table.get?_append]
    by_cases hfirst : first = name
    · rw [hfirst, ownedEntry, Table.get?_singleton_self, Option.some_or]
    · have hnone : Table.get? [ownedEntry first] name = none := by
        rw [Table.get?_eq_none_iff, ownedEntry, Table.has_singleton, decide_eq_false hfirst]
      rw [hnone, Option.none_or]
      exact ih ((List.mem_cons.mp h).resolve_left (Ne.symm hfirst))

/-- A namespace that was not there is created. -/
theorem GrownFrom.withNew (h : GrownFrom base (ids ++ [id]) l)
    (hfree : Table.has l.namespaces id = false) :
    GrownFrom base (ids ++ [id]) (l.withNew id ownerLabels) := by
  obtain ⟨names, rfl, hnames, hnew⟩ := h
  obtain ⟨hbase, hid⟩ : Table.has base.namespaces id = false ∧ id ∉ names := by
    simpa [withOwned, Table.has_append, has_map_ownedEntry] using hfree
  refine ⟨names ++ [id], ?_, ?_, ?_⟩
  · simp [withOwned, Lifecycle.withNew, ownedEntry]
  · -- the names so far do not hold the last id, so they come from the ids before it
    obtain ⟨front, last, rfl, hfront, hlast⟩ := List.sublist_append_iff.mp hnames
    have hnil : last = [] := by
      rcases List.sublist_singleton.mp hlast with rfl | rfl
      · rfl
      · exact absurd (List.mem_append_right _ (List.mem_singleton_self _)) hid
    rw [hnil, List.append_nil]
    exact hfront.append (List.Sublist.refl _)
  · intro name hname
    rcases List.mem_append.mp hname with hname | hname
    · exact hnew name hname
    · rw [List.mem_singleton.mp hname]
      exact hbase

end Lifecycle

namespace Hosts

open Lifecycle

variable {σ : Type} {world : World Action Action.Answer σ} {cluster : σ → Fake}
  {base : Lifecycle} {ids : List String} {state : σ}

/-- A creation keeps the cluster grown from its base; so does everything that changes nothing. -/
theorem answer_grows (h : Hosts world cluster) (hbase : base.terminating = []) {id : String}
    {a : Action} (ha : a.CreatesOnly id)
    (hstate : GrownFrom base (ids ++ [id]) (cluster state).lifecycle) :
    GrownFrom base (ids ++ [id]) (cluster (world.answer a state).2).lifecycle := by
  rcases ha with ha | rfl
  · rw [h.answer_keeps (hstate.terminating.trans hbase) ha rfl]
    exact hstate
  · rw [h.holds]
    cases hhas : Table.has (cluster state).lifecycle.namespaces id with
    | true =>
      rw [Fake.answer_createNamespace_of_has rfl hhas]
      exact hstate
    | false =>
      rw [Fake.answer_createNamespace_of_not_has rfl hhas]
      exact hstate.withNew hhas

theorem run_grows (h : Hosts world cluster) (hbase : base.terminating = []) (patience : Nat)
    {α : Type} {id : String} {s : Engine α} (hs : AsksOnly (Action.CreatesOnly id) s)
    (hstate : GrownFrom base ids (cluster state).lifecycle) :
    GrownFrom base (ids ++ [id]) (cluster (Script.run world patience s state).2).lifecycle := by
  apply hs.run_keeps (J := fun state => GrownFrom base (ids ++ [id]) (cluster state).lifecycle)
  · intro a ha state hstate
    exact h.answer_grows hbase ha hstate
  · intro time state hstate
    rw [h.sleeps]
    exact hstate
  · exact hstate.mono (List.sublist_append_left _ _)

/-- Installing components one after the other, up to the first failure, only adds namespaces. -/
theorem applyAll_grows (h : Hosts world cluster) (hbase : base.terminating = []) (patience : Nat)
    {budgets : Budgets} {specs : List UnitSpec} {components : List Component}
    (hc : Component.Realize budgets specs components) (settings : Settings)
    (hstate : GrownFrom base ids (cluster state).lifecycle) :
    GrownFrom base (ids ++ components.map Component.id)
      (cluster (Script.run world patience
        (Installer.applyAll Component.install settings components) state).2).lifecycle := by
  induction hc generalizing ids state with
  | nil =>
    rw [List.map_nil, List.append_nil]
    exact hstate
  | @cons spec c specs rest hspec _ ih =>
    have hfirst := h.run_grows hbase patience
      (Component.asksOnly_installOne hspec settings) hstate
    have hids : ids ++ (c :: rest).map Component.id = (ids ++ [c.id]) ++ rest.map Component.id := by
      simp
    show GrownFrom base _ (cluster (Script.run world patience
      ((Installer.applyOne Component.install settings c).andThen fun _ =>
        Installer.applyAll Component.install settings rest) state).2).lifecycle
    rw [hids, Script.andThen, run_handle]
    rcases hrun : Script.run world patience (Installer.applyOne Component.install settings c) state
      with ⟨_ | ⟨e | a⟩, state'⟩ <;> rw [hrun] at hfirst
    · exact hfirst.mono (List.sublist_append_left _ _)
    · exact hfirst.mono (List.sublist_append_left _ _)
    · -- only if the first component was installed are the others reached
      exact ih hfirst

end Hosts

end Cluster

end Groundwork
