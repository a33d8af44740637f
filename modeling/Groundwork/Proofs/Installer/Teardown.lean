import Groundwork.Engine.Rehearsal
import Groundwork.Proofs.Cluster.Ownership
import Groundwork.Proofs.Component.Removal
import Groundwork.Proofs.Installer.Growth
import Groundwork.Proofs.Script.History

/-!
# Uninstalling undoes installing

However an installation of a checked catalog has ended, uninstalling afterwards takes away exactly
the namespaces that it has created, in reverse (`Installer.uninstall_undoes_install`), as long as
the commands succeed or have nothing to do, and the budget for deletions covers the lag of the
cluster.

No command fails without an excuse in a world that `Excuses`.  In such a world a removed component
leaves the cluster `without` its namespace (`Hosts.returns_remove_owned`), and one whose namespace
is not the installer's leaves it as it is (`Hosts.returns_remove_spared`); going through the
components in reverse puts these together (`Hosts.returns_removeAll`).  What holds in such a world
holds wherever the history of the run is `Excused` (`run_excusing`).
-/

namespace Groundwork

open Script Cluster

/-! ### Excuses -/

/-- If the action is a command, it succeeded, or it failed because there was nothing to do. -/
def Action.IsExcused : (a : Action) → a.Answer → Prop
  | .run i, answer => ∃ o : CommandOutput, answer = .ok o ∧ o.IsBenign i.program
  | _, _ => True

/-- Every command in the history succeeded, or it failed because there was nothing to do. -/
def Excused (history : History Action Action.Answer) : Prop :=
  ∀ (a : Action) (answer : a.Answer), .asked a answer ∈ history → a.IsExcused answer

/-- No command of the world fails without an excuse. -/
def Excuses {σ : Type} (world : World Action Action.Answer σ) : Prop :=
  ∀ (a : Action) state, a.IsExcused (world.answer a state).1

/-! ### Polling -/

namespace Engine

/-- Polling with the budget can go on for so many looks after the first one.  It depends on the
patience only if the budget is endless. -/
structure Outlasts (budget : Duration) (patience looks : Nat) : Prop where
  covers : looks * nanosPerSecond ≤ budget.ns
  patience : Wait.endlessSeconds ≤ budget.seconds → looks < patience

/-- Polling ends well if what it waits for comes to pass while it can still look. -/
theorem returns_pollUntil {σ : Type} {world : World Action Action.Answer σ} {c : Call}
    {judge : c.Found → Except DeployError Bool} {budget : Duration} (phase : Nat → σ → Prop)
    {post : σ → Prop} {looks patience : Nat} {state : σ} (hlasts : Outlasts budget patience looks)
    (hlast : ∀ state, phase 0 state →
      Except.bind (world.answer (.call c) state).1 judge = .ok true ∧
        post (world.answer (.call c) state).2)
    (hmore : ∀ n state, phase (n + 1) state →
      Except.bind (world.answer (.call c) state).1 judge = .ok false ∧
        ∀ time, phase n (world.sleep time (world.answer (.call c) state).2))
    (hphase : phase looks state) :
    Returns world patience (pollUntil budget c judge) state () post := by
  have hinterval : pollInterval.ns = nanosPerSecond := by decide
  have hpos : 0 < pollInterval.ns := by
    rw [hinterval]
    decide
  apply Script.returns_pollUntil phase hlast hmore hphase hpos
  · apply Wait.covers_within
    rw [hinterval]
    exact hlasts.covers
  · intro hleft
    exact hlasts.patience (Wait.left_within hleft)

end Engine

namespace Cluster.Hosts

variable {σ : Type} {world : World Action Action.Answer σ} {cluster : σ → Fake} {patience : Nat}
  {l : Lifecycle} {state : σ} {name : String}

/-! ### Steps of a removal -/

/-- A command that was excused is no failure. -/
theorem returns_runChecked (h : Hosts world cluster) (patience : Nat) {i : Invocation}
    (hexcused : (Action.run i).IsExcused (world.answer (.run i) state).1)
    (hstate : (cluster state).lifecycle = l) :
    ∃ o, Returns world patience (Engine.runChecked i (benignTexts i.program)) state o fun state =>
      (cluster state).lifecycle = l := by
  obtain ⟨o, hanswer, hbenign⟩ := hexcused
  have hrun : Returns world patience (Engine.run i) state o fun state =>
      (cluster state).lifecycle = l := by
    apply Returns.ask
    apply Returns.ofExcept hanswer
    rw [h.spares _ _ (by simp), hstate]
  refine ⟨o, hrun.andThen fun after hafter => ?_⟩
  exact Returns.ofExcept (Engine.judgeOutput_eq_ok.mpr ⟨rfl, hbenign⟩) hafter

theorem returns_removeWorkload (h : Hosts world cluster) (u : ChartUnit) (hexcused : Excuses world)
    (hstate : (cluster state).lifecycle = l) :
    Returns world patience u.removeWorkload state () fun state =>
      (cluster state).lifecycle = l := by
  apply (h.returns_say hstate).andThen
  intro after hafter
  obtain ⟨o, ho⟩ := h.returns_runChecked patience (hexcused _ after) hafter
  rw [u.benignTexts_removeCommand] at ho
  apply ho.andThen
  intro after' hafter'
  by_cases hsuccess : o.success = true
  · rw [if_pos hsuccess]
    exact Returns.done hafter'
  · rw [if_neg hsuccess]
    exact h.returns_say hafter'

/-! ### Vanishing namespaces -/

/-- A namespace that is going away is gone when a wait that covers its last looks is over. -/
theorem returns_awaitFading (h : Hosts world cluster) (hl : l.terminating = [])
    (hhas : Table.has l.namespaces name = true) {n : Nat} {budget : Duration}
    (hlasts : Engine.Outlasts budget patience n)
    (hstate : (cluster state).lifecycle = l.fading name n) :
    Returns world patience (awaitNamespaceGone name budget) state () fun state =>
      (cluster state).lifecycle = l.without name := by
  apply Engine.returns_pollUntil (fun n state => (cluster state).lifecycle = l.fading name n) hlasts
  · intro state hstate
    obtain ⟨hanswer, hafter⟩ := Fake.answer_fading_zero hl hstate
    constructor
    · rw [h.answers, hanswer]
      rfl
    · rw [h.holds, hafter]
  · intro n state hstate
    obtain ⟨hanswer, hafter⟩ := Fake.answer_fading_succ hstate
    constructor
    · obtain ⟨ns, hns⟩ := Table.exists_get?_of_has hhas
      rw [h.answers, hanswer, hns]
      rfl
    · intro time
      rw [h.sleeps, h.holds, hafter]
  · exact hstate

/-- A namespace that is not there is not waited for. -/
theorem returns_awaitAbsent (h : Hosts world cluster) (hl : l.terminating = [])
    (hhas : Table.has l.namespaces name = false) {budget : Duration}
    (hlasts : Engine.Outlasts budget patience 0)
    (hstate : (cluster state).lifecycle = l) :
    Returns world patience (awaitNamespaceGone name budget) state () fun state =>
      (cluster state).lifecycle = l := by
  -- there is one phase only: the first look settles it
  apply Engine.returns_pollUntil (fun n state => n = 0 ∧ (cluster state).lifecycle = l) hlasts
  · rintro state ⟨-, hstate⟩
    constructor
    · rw [h.answers, Fake.answer_getNamespace hstate hl, Table.get?_eq_none_iff.mpr hhas]
      rfl
    · exact h.answer_keeps hl (Or.inl trivial) hstate
  · rintro n state ⟨hn, -⟩
    cases hn
  · exact ⟨rfl, hstate⟩

theorem returns_vanish (h : Hosts world cluster) (hl : l.terminating = [])
    (hhas : Table.has l.namespaces name = true) {budget : Duration}
    (hlasts : Engine.Outlasts budget patience l.deletionLag)
    (hstate : (cluster state).lifecycle =
      if l.deletionLag = 0 then l.without name else l.fading name l.deletionLag) :
    Returns world patience (awaitNamespaceGone name budget) state () fun state =>
      (cluster state).lifecycle = l.without name := by
  by_cases hlag : l.deletionLag = 0
  · rw [if_pos hlag] at hstate
    have hgone : Table.has (l.without name).namespaces name = false :=
      Table.get?_eq_none_iff.mp (Table.get?_erase_self _ _)
    exact h.returns_awaitAbsent (l := l.without name) hl hgone (hlag ▸ hlasts) hstate
  · rw [if_neg hlag] at hstate
    exact h.returns_awaitFading hl hhas hlasts hstate

/-! ### Removals -/

theorem returns_guardRemove_spared (h : Hosts world cluster) (patience : Nat)
    (hl : l.terminating = [])
    (hspared : NamespaceState.ofFound (Table.get? l.namespaces name) ≠ .owned)
    (hstate : (cluster state).lifecycle = l) :
    Returns world patience (guardRemove name) state false fun state =>
      (cluster state).lifecycle = l := by
  apply (h.returns_readState hl hstate).andThen
  intro after hafter
  rcases hfound : NamespaceState.ofFound (Table.get? l.namespaces name) with _ | _ | _
  · exact (h.returns_say hafter).andThen fun _ hafter => Returns.done hafter
  · exact absurd hfound hspared
  · exact (h.returns_say hafter).andThen fun _ hafter => Returns.done hafter

theorem returns_guardRemove_owned (h : Hosts world cluster) (patience : Nat)
    (hl : l.terminating = [])
    (howned : NamespaceState.ofFound (Table.get? l.namespaces name) = .owned)
    (hstate : (cluster state).lifecycle = l) :
    Returns world patience (guardRemove name) state true fun state =>
      (cluster state).lifecycle = l := by
  apply (h.returns_readState hl hstate).andThen
  intro after hafter
  rw [howned]
  exact Returns.done hafter

/-- A unit whose namespace is not the installer's is left as it is. -/
theorem returns_remove_spared (h : Hosts world cluster) (patience : Nat) (u : ChartUnit)
    (hl : l.terminating = [])
    (hspared : NamespaceState.ofFound (Table.get? l.namespaces u.spec.id) ≠ .owned)
    (hstate : (cluster state).lifecycle = l) :
    Returns world patience u.remove state () fun state => (cluster state).lifecycle = l := by
  apply (h.returns_guardRemove_spared patience hl hspared hstate).andThen
  intro after hafter
  exact Returns.done hafter

/-- A unit whose namespace is the installer's is removed with its namespace. -/
theorem returns_remove_owned (h : Hosts world cluster) (u : ChartUnit)
    (hexcused : Excuses world)
    (hl : l.terminating = [])
    (howned : NamespaceState.ofFound (Table.get? l.namespaces u.spec.id) = .owned)
    (hlasts : Engine.Outlasts u.budgets.forNamespaceDeletion patience l.deletionLag)
    (hstate : (cluster state).lifecycle = l) :
    Returns world patience u.remove state () fun state =>
      (cluster state).lifecycle = l.without u.spec.id := by
  have hhas : Table.has l.namespaces u.spec.id = true := by
    obtain ⟨ns, hfound, -⟩ := NamespaceState.ofFound_eq_owned_iff.mp howned
    rw [Table.has_eq_isSome_get?, hfound]
    rfl
  apply (h.returns_guardRemove_owned patience hl howned hstate).andThen
  intro after hafter
  -- what is said and the commands leave the namespaces as they are
  apply (h.returns_say hafter).andThen
  intro after hafter
  apply (h.returns_removeWorkload u hexcused hafter).andThen
  intro after hafter
  apply (h.returns_call rfl).andThen
  intro after' hafter'
  have hdeleted := Fake.answer_deleteNamespace hafter hl hhas
  rw [← hafter'] at hdeleted
  apply (h.returns_say hdeleted).andThen
  intro after hafter
  apply (h.returns_vanish hl hhas hlasts hafter).andThen
  intro after hafter
  exact h.returns_say hafter

/-! ### Teardown -/

open Lifecycle

/-- Removing components one after the other takes away the namespaces that the installer has created
for some of them, in the order of the components. -/
theorem returns_removeAll (h : Hosts world cluster)
    (hexcused : Excuses world)
    {budgets : Budgets} {specs : List UnitSpec} {components : List Component}
    (hc : Component.Realize budgets specs components)
    (hnodup : (components.map Component.id).Nodup) {spare : Table String Namespace}
    (hforeign : ∀ c ∈ components, ∀ ns, Table.get? spare c.id = some ns → ns.isOwned = false)
    {left : List String} (hleft : left.Sublist (components.map Component.id))
    (hfree : ∀ name ∈ left, Table.has spare name = false) (hl : l.terminating = [])
    (hnamespaces : l.namespaces = spare ++ left.reverse.map ownedEntry)
    (hlasts : Engine.Outlasts budgets.forNamespaceDeletion patience l.deletionLag)
    (hstate : (cluster state).lifecycle = l) :
    Returns world patience (Installer.removeAll components) state [] fun state =>
      (cluster state).lifecycle =
        { l with namespaces := spare, deleted := l.deleted ++ left } := by
  induction hc generalizing left l state with
  | nil =>
    obtain rfl : left = [] := List.sublist_nil.mp hleft
    rw [List.reverse_nil, List.map_nil, List.append_nil] at hnamespaces
    apply Returns.done
    rw [hstate, List.append_nil, ← hnamespaces]
  | @cons spec c specs rest hspec _ ih =>
    obtain ⟨u, hremove, hid, hbudgets⟩ := Component.remove_of_ofSpec hspec
    obtain ⟨hc, hrest⟩ := List.nodup_cons.mp (List.map_cons ▸ hnodup)
    have hforeign' : ∀ c ∈ rest, ∀ ns, Table.get? spare c.id = some ns → ns.isOwned = false :=
      fun c hmem => hforeign c (List.mem_cons_of_mem _ hmem)
    rcases List.sublist_cons_iff.mp hleft with hskipped | ⟨others, rfl, hothers⟩
    · -- nothing was created for this component, so its namespace is absent or foreign
      have hnone : Table.get? (left.reverse.map ownedEntry) c.id = none := by
        rw [Table.get?_eq_none_iff, has_map_ownedEntry, decide_eq_false_iff_not, List.mem_reverse]
        exact fun hmem => hc (hskipped.subset hmem)
      have hspared : NamespaceState.ofFound (Table.get? l.namespaces u.spec.id) ≠ .owned := by
        rw [hid, hnamespaces, Table.get?_append, hnone, Option.or_none, ne_eq,
          NamespaceState.ofFound_eq_owned_iff]
        rintro ⟨ns, hfound, howned⟩
        rw [hforeign c (List.mem_cons_self ..) ns hfound] at howned
        cases howned
      have hfirst := h.returns_remove_spared patience u hl hspared hstate
      rw [← hremove] at hfirst
      apply hfirst.attempt.andThen
      intro after hafter
      exact ih hrest hforeign' hskipped hfree hl hnamespaces hlasts hafter
    · -- the namespace of this component is the last one that was created
      have hspare : Table.has spare c.id = false := hfree c.id (List.mem_cons_self ..)
      have hothersFree : Table.has (others.reverse.map ownedEntry) c.id = false := by
        rw [has_map_ownedEntry, decide_eq_false_iff_not, List.mem_reverse]
        exact fun hmem => hc (hothers.subset hmem)
      have howned : NamespaceState.ofFound (Table.get? l.namespaces u.spec.id) = .owned := by
        have hmem : c.id ∈ (c.id :: others).reverse := by simp
        rw [hid, hnamespaces, Table.get?_append, Table.get?_eq_none_iff.mpr hspare, Option.none_or,
          get?_map_ownedEntry hmem]
        exact NamespaceState.ofFound_eq_owned_iff.mpr ⟨_, rfl, isOwned_ownedEntry c.id⟩
      have herased : (l.without c.id).namespaces = spare ++ others.reverse.map ownedEntry := by
        show Table.erase l.namespaces c.id = _
        rw [hnamespaces, List.reverse_cons, List.map_append, Table.erase_append, Table.erase_append,
          Table.erase_of_not_has hspare, Table.erase_of_not_has hothersFree]
        show spare ++ (_ ++ Table.erase [ownedEntry c.id] c.id) = _
        rw [ownedEntry, Table.erase_singleton_self, List.append_nil]
      have hfirst := h.returns_remove_owned u hexcused hl howned (hbudgets ▸ hlasts) hstate
      rw [← hremove, hid] at hfirst
      apply hfirst.attempt.andThen
      intro after hafter
      have hothersNew : ∀ name ∈ others, Table.has spare name = false :=
        fun name hname => hfree name (List.mem_cons_of_mem _ hname)
      apply (ih hrest hforeign' hothers hothersNew (l := l.without c.id) hl herased hlasts
        hafter).weaken
      intro after hafter
      rw [hafter]
      show { l with namespaces := spare, deleted := (l.deleted ++ [c.id]) ++ others } = _
      rw [List.append_assoc, List.singleton_append]

end Cluster.Hosts

/-! ### Histories without a failure -/

section Excusing

variable {σ : Type} {world : World Action Action.Answer σ} {cluster : σ → Fake}

/-- The answer of a command, or silent success in the place of a failure without an excuse. -/
def excuse (i : Invocation) : Except DeployError CommandOutput → CommandOutput
  | .ok o => if o.success || o.mentions (benignTexts i.program) then o else .ok ""
  | .error _ => .ok ""

/-- The world in which no command fails without an excuse. -/
def excusing (world : World Action Action.Answer σ) : World Action Action.Answer σ where
  answer
    | .run i, state =>
      (.ok (excuse i (world.answer (.run i) state).1), (world.answer (.run i) state).2)
    | a, state => world.answer a state
  sleep := world.sleep

/-- A world in which every command is excused leaves excused histories. -/
theorem Excuses.excused (h : Excuses world) {α : Type} (s : Engine α) (patience : Nat) (state : σ) :
    Excused (Script.run world.recording patience s (state, [])).2.2 := by
  apply (asksOnly_true s).run_keeps (J := fun state : σ × History Action Action.Answer =>
    Excused state.2)
  · intro a _ state hstate b answer hmem
    rcases List.mem_append.mp hmem with hmem | hmem
    · exact hstate b answer hmem
    · cases List.mem_singleton.mp hmem
      exact h a state.1
  · intro time state hstate b answer hmem
    rcases List.mem_append.mp hmem with hmem | hmem
    · exact hstate b answer hmem
    · cases List.mem_singleton.mp hmem
  · intro a answer hmem
    cases hmem

theorem isBenign_excuse (i : Invocation) (answer : Except DeployError CommandOutput) :
    (excuse i answer).IsBenign i.program := by
  cases answer with
  | error e => exact Or.inl rfl
  | ok o =>
    by_cases hbenign : (o.success || o.mentions (benignTexts i.program)) = true
    · rw [excuse, if_pos hbenign]
      exact Bool.or_eq_true_iff.mp hbenign
    · rw [excuse, if_neg hbenign]
      exact Or.inl rfl

theorem excuse_of_isBenign {i : Invocation} {o : CommandOutput} (h : o.IsBenign i.program) :
    excuse i (.ok o) = o :=
  if_pos (Bool.or_eq_true_iff.mpr h)

theorem excuses_excusing (world : World Action Action.Answer σ) : Excuses (excusing world) := by
  intro a state
  cases a with
  | run i => exact ⟨_, rfl, isBenign_excuse i _⟩
  | _ => trivial

theorem Cluster.Hosts.excusing (h : Hosts world cluster) : Hosts (excusing world) cluster where
  answers c state := h.answers c state
  holds c state := h.holds c state
  spares a state ha := by
    cases a with
    | run i => exact h.spares (.run i) state ha
    | call c => exact absurd rfl (ha c)
    | connect => exact h.spares _ state ha
    | say level text => exact h.spares _ state ha
    | print text => exact h.spares _ state ha
    | note entry => exact h.spares _ state ha
  sleeps time state := h.sleeps time state

/-- Where every command was excused anyway, the excusing world plays a script like the world
itself. -/
theorem run_excusing {α : Type} {s : Engine α} {patience : Nat} {state : σ}
    (h : Excused (Script.run world.recording patience s (state, [])).2.2) :
    Script.run (excusing world) patience s state = Script.run world patience s state := by
  apply run_congr _ _ s (state, []) h
  · intro a state hexcused
    cases a with
    | run i =>
      obtain ⟨o, hanswer, hbenign⟩ := hexcused
      show (Except.ok (excuse i (world.answer (.run i) state).1),
        (world.answer (.run i) state).2) = world.answer (.run i) state
      rw [hanswer, excuse_of_isBenign hbenign, ← hanswer]
    | call c => rfl
    | connect => rfl
    | say level text => rfl
    | print text => rfl
    | note entry => rfl
  · intro time state
    rfl

end Excusing

namespace Installer

open Lifecycle

variable {σ : Type} {world : World Action Action.Answer σ} {cluster : σ → Fake} {patience : Nat}
  {catalog : Catalog} {i : Installer}

/-- Uninstalling from a cluster that has grown by namespaces of some units. -/
theorem returns_uninstall (h : Hosts world cluster)
    (hexcused : Excuses world)
    (hcheck : catalog.check = .ok ())
    (hc : Component.Realize catalog.budgets catalog.units i.components)
    {base : Lifecycle} {lag : Nat} (hbase : base.terminating = [])
    (hforeign : ∀ u ∈ catalog.units, ∀ ns, Table.get? base.namespaces u.id = some ns →
      ns.isOwned = false)
    {names : List String} (hnames : names.Sublist (catalog.units.map UnitSpec.id))
    (hfree : ∀ name ∈ names, Table.has base.namespaces name = false)
    (hlasts : Engine.Outlasts catalog.budgets.forNamespaceDeletion patience lag) {state : σ}
    (hstate : (cluster state).lifecycle = { base.withOwned names with deletionLag := lag }) :
    Returns world patience i.uninstall state () fun state =>
      (cluster state).lifecycle = { base.withOwned names with
        deletionLag := lag
        namespaces := base.namespaces
        deleted := base.deleted ++ names.reverse } := by
  have hids : i.components.map Component.id = catalog.units.map UnitSpec.id :=
    Component.ids_of_realize hc
  have hnodup : (i.components.reverse.map Component.id).Nodup := by
    rw [List.map_reverse, List.nodup_reverse, hids]
    exact catalog.ids_nodup hcheck
  have hspared : ∀ c ∈ i.components.reverse, ∀ ns, Table.get? base.namespaces c.id = some ns →
      ns.isOwned = false := by
    intro c hmem
    have hid : c.id ∈ catalog.units.map UnitSpec.id := by
      rw [← hids]
      exact List.mem_map_of_mem (List.mem_reverse.mp hmem)
    obtain ⟨u, hu, hueq⟩ := List.mem_map.mp hid
    rw [← hueq]
    exact hforeign u hu
  have hleft : names.reverse.Sublist (i.components.reverse.map Component.id) := by
    rw [List.map_reverse, hids]
    exact hnames.reverse
  have hnamespaces : base.namespaces ++ names.map ownedEntry =
      base.namespaces ++ names.reverse.reverse.map ownedEntry := by
    rw [List.reverse_reverse]
  have hremoved := h.returns_removeAll (l := { base.withOwned names with deletionLag := lag })
    hexcused (List.rel_reverse hc) hnodup hspared hleft
    (fun name hname => hfree name (List.mem_reverse.mp hname)) hbase hnamespaces hlasts hstate
  apply hremoved.andThen
  intro after hafter
  exact Returns.done hafter

/-- Uninstalling after an installation, however that has ended, takes away what it has created. -/
theorem uninstall_undoes_install {catalog : Catalog} (hcheck : catalog.check = .ok ()) :
    ∃ i, ofCatalog catalog = .ok i ∧ ∀ (settings : Settings)
      {σ τ : Type} {before : World Action Action.Answer σ} {clusterBefore : σ → Fake}
      {after : World Action Action.Answer τ} {clusterAfter : τ → Fake}
      (_ : Hosts before clusterBefore) (_ : Hosts after clusterAfter)
      (patience patience' : Nat) (start : σ) (resumed : τ) (lag : Nat),
      (clusterBefore start).terminating = [] →
      (∀ u ∈ catalog.units, ∀ ns, Table.get? (clusterBefore start).namespaces u.id = some ns →
        ns.isOwned = false) →
      clusterAfter resumed =
        { clusterBefore (Script.run before patience { i with settings }.install start).2 with
          deletionLag := lag } →
      lag * nanosPerSecond ≤ catalog.budgets.forNamespaceDeletion.ns →
      (Wait.endlessSeconds ≤ catalog.budgets.forNamespaceDeletion.seconds → lag < patience') →
      Excused
        (Script.run after.recording patience' { i with settings }.uninstall (resumed, [])).2.2 →
      ∃ done names,
        Script.run after patience' { i with settings }.uninstall resumed = (some (.ok ()), done) ∧
        (clusterAfter done).namespaces = (clusterBefore start).namespaces ∧
        (clusterAfter resumed).created = (clusterBefore start).created ++ names ∧
        (clusterAfter done).deleted = (clusterAfter resumed).deleted ++ names.reverse := by
  obtain ⟨i, hi⟩ := exists_ofCatalog hcheck
  refine ⟨i, hi, ?_⟩
  intro settings σ τ before clusterBefore after clusterAfter hbefore hafter patience patience' start
    resumed lag hterminating hforeign hresumed hbudget hpatience hexcused
  have hc := realize_of_ofCatalog hi
  have hgrown := hbefore.applyAll_grows hterminating patience hc settings
    (grownFrom_self (clusterBefore start).lifecycle)
  rw [List.nil_append, Component.ids_of_realize hc] at hgrown
  obtain ⟨names, hlifecycle, hnames, hfree⟩ := hgrown
  have hstate : (clusterAfter resumed).lifecycle =
      { (clusterBefore start).lifecycle.withOwned names with deletionLag := lag } := by
    rw [hresumed]
    exact congrArg (fun l : Lifecycle => { l with deletionLag := lag }) hlifecycle
  -- the commands are excused in this history only, so uninstall in the world that always excuses
  have hreturns := returns_uninstall (i := { i with settings }) hafter.excusing
    (excuses_excusing after) hcheck hc hterminating hforeign hnames hfree
    ⟨hbudget, hpatience⟩ hstate
  obtain ⟨done, hrun, hdone⟩ := hreturns
  rw [run_excusing hexcused] at hrun
  refine ⟨done, names, hrun, ?_, ?_, ?_⟩
  · exact congrArg Lifecycle.namespaces hdone
  · exact congrArg Lifecycle.created hstate
  · have hdeleted : (clusterAfter resumed).deleted = (clusterBefore start).deleted :=
      congrArg Lifecycle.deleted hstate
    rw [hdeleted]
    exact congrArg Lifecycle.deleted hdone

/-- A chart whose installation fails after its namespace was created is taken away again. -/
theorem uninstall_undoes_failed_install :
    ∃ i done names, ofCatalog { units := [{ id := "web", chart := some "web" }] } = .ok i ∧
      Script.run (Fake.worldWith fun _ => .ok "") 3 i.uninstall
        { (Script.run (Fake.worldWith fun _ => .failed 1 "denied") 0 i.install {}).2 with
          deletionLag := 2 } = (some (.ok ()), done) ∧
      done.namespaces = [] ∧
      (Script.run (Fake.worldWith fun _ => .failed 1 "denied") 0 i.install {}).2.created = names ∧
      done.deleted =
        (Script.run (Fake.worldWith fun _ => .failed 1 "denied") 0 i.install {}).2.deleted ++
          names.reverse := by
  have hcheck : Catalog.check { units := [{ id := "web", chart := some "web" }] } = .ok () := rfl
  obtain ⟨i, hi, hundoes⟩ := uninstall_undoes_install hcheck
  have hexcused : Excuses (Fake.worldWith fun _ => .ok "") := by
    intro a f
    cases a with
    | run i => exact ⟨_, rfl, Or.inl rfl⟩
    | _ => trivial
  obtain ⟨done, names, hrun, hnamespaces, hcreated, hdeleted⟩ :=
    hundoes i.settings (Fake.hosts_worldWith fun _ => .failed 1 "denied")
      (Fake.hosts_worldWith fun _ => .ok "") 0 3 {} _ 2 rfl
      (fun _ _ _ hfound => nomatch hfound) rfl (by decide) (by decide)
      (Excuses.excused hexcused _ _ _)
  exact ⟨i, done, names, hi, hrun, hnamespaces, hcreated, hdeleted⟩

end Installer

end Groundwork
