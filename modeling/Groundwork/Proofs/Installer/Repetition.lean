import Groundwork.Proofs.Component.LeftOut
import Groundwork.Proofs.Component.SettingErrors
import Groundwork.Proofs.Installer.Teardown

/-!
# Doing it again

An installation that ended well left some units out and created the namespaces of the others, in
their order: that is `Installed`.  Installing again comes as far as the first unit whose namespace
was created, and is refused there without having touched anything
(`Isolates.fails_again`).  After a removal that ended well none of the units has a namespace
of the installer's, and removing again only looks.  `Installer.run_again` puts the two together.
-/

namespace Groundwork

open Script Cluster

namespace Cluster

namespace Lifecycle

variable {l : Lifecycle} {names : List String} {name : String}

theorem withOwned_nil (l : Lifecycle) : l.withOwned [] = l := by
  simp [withOwned]

theorem withOwned_cons (l : Lifecycle) (name : String) (names : List String) :
    l.withOwned (name :: names) = (l.withNew name ownerLabels).withOwned names := by
  simp [withOwned, Lifecycle.withNew, ownedEntry]

/-- What is known of a namespace stays, unless it is one of the new ones. -/
theorem get?_withOwned_of_not_mem (h : name ∉ names) :
    Table.get? (l.withOwned names).namespaces name = Table.get? l.namespaces name := by
  have hnone : Table.get? (names.map ownedEntry) name = none := by
    rw [Table.get?_eq_none_iff, has_map_ownedEntry]
    exact decide_eq_false h
  show Table.get? (l.namespaces ++ names.map ownedEntry) name = _
  rw [Table.get?_append, hnone, Option.or_none]

/-- A new namespace is the installer's. -/
theorem ofFound_withOwned (hfree : Table.has l.namespaces name = false) (h : name ∈ names) :
    NamespaceState.ofFound (Table.get? (l.withOwned names).namespaces name) = .owned := by
  have hsome : Table.get? (l.withOwned names).namespaces name =
      some ⟨some name, some ownerLabels⟩ := by
    show Table.get? (l.namespaces ++ names.map ownedEntry) name = _
    rw [Table.get?_append, Table.get?_eq_none_iff.mpr hfree, Option.none_or,
      get?_map_ownedEntry h]
  rw [hsome]
  exact NamespaceState.ofFound_eq_owned_iff.mpr ⟨_, rfl, isOwned_ownedEntry name⟩

end Lifecycle

end Cluster

/-! ### What an installation has done -/

/-- Installing these units ends well on a cluster of which this can be seen: some are left out, and
these namespaces are created for the others. -/
inductive Installed (settings : Settings) (o : Objects) :
    Lifecycle → List ChartUnit → List String → Prop
  | nil {l : Lifecycle} : Installed settings o l [] []
  | leftOut {l : Lifecycle} {u : ChartUnit} {rest : List ChartUnit} {names : List String}
      (hout : u.LeftOut settings l o) (hrest : Installed settings o l rest names) :
      Installed settings o l (u :: rest) names
  | joined {l : Lifecycle} {u : ChartUnit} {rest : List ChartUnit} {names : List String}
      (hjoins : u.Joins settings l o)
      (hrest : Installed settings o (l.withNew u.spec.id ownerLabels) rest names) :
      Installed settings o l (u :: rest) (u.spec.id :: names)

/-- The ids of units. -/
def unitIds (us : List ChartUnit) : List String :=
  us.map fun u => u.spec.id

theorem Installed.sublist {settings : Settings} {o : Objects} {l : Lifecycle}
    {us : List ChartUnit} {names : List String} (h : Installed settings o l us names) :
    names.Sublist (unitIds us) := by
  induction h with
  | nil => exact List.Sublist.refl _
  | leftOut hout hrest ih => exact ih.cons _
  | joined hjoins hrest ih => exact ih.cons_cons _

/-- What is known of a namespace that is none of the units' stays. -/
theorem Installed.get?_of_fresh {settings : Settings} {o : Objects} {l : Lifecycle}
    {us : List ChartUnit} {names : List String} (h : Installed settings o l us names) {id : String}
    (hfresh : id ∉ unitIds us) :
    Table.get? (l.withOwned names).namespaces id = Table.get? l.namespaces id :=
  Lifecycle.get?_withOwned_of_not_mem fun hmem => hfresh (h.sublist.subset hmem)

/-- The components of a catalog are those of units, one for each specification. -/
theorem Component.units_of_realize {budgets : Budgets} {specs : List UnitSpec}
    {components : List Component} (h : Component.Realize budgets specs components) :
    ∃ us : List ChartUnit, components = us.map ChartUnit.component ∧
      us.map ChartUnit.spec = specs := by
  induction h with
  | nil => exact ⟨[], rfl, rfl⟩
  | cons hc _ ih =>
    obtain ⟨u, rfl, rfl, -⟩ := ChartUnit.component_of_ofSpec hc
    obtain ⟨us, rfl, rfl⟩ := ih
    exact ⟨u :: us, rfl, rfl⟩

/-- The installer of a catalog that passes its check installs units, each with its own id. -/
theorem Installer.exists_units {catalog : Catalog} (hcheck : catalog.check = .ok ()) :
    ∃ i us, ofCatalog catalog = .ok i ∧ i.components = us.map ChartUnit.component ∧
      unitIds us = catalog.units.map UnitSpec.id ∧ (unitIds us).Nodup := by
  obtain ⟨i, hi⟩ := exists_ofCatalog hcheck
  obtain ⟨us, hus, hspecs⟩ := Component.units_of_realize (realize_of_ofCatalog hi)
  have hids : unitIds us = catalog.units.map UnitSpec.id := by
    rw [← hspecs, List.map_map]
    rfl
  exact ⟨i, us, hi, hus, hids, hids ▸ catalog.ids_nodup hcheck⟩

namespace Cluster.Isolates

variable {σ : Type} {world : World Action Action.Answer σ} {cluster : σ → Fake} {patience : Nat}
  {settings : Settings} {l : Lifecycle} {o : Objects} {state after : σ} {J : σ → Prop}

/-- An installation that ends well has done this. -/
theorem installed_of_run (h : Isolates world cluster) (hl : l.terminating = [])
    {us : List ChartUnit} (hstate : (cluster state).Shows l o)
    (hrun : Script.run world patience
      (Installer.applyAll (fun c => c.applyBy .install) settings (us.map ChartUnit.component))
        state = (some (.ok ()), after)) :
    ∃ names, Installed settings o l us names ∧ (cluster after).Shows (l.withOwned names) o := by
  induction us generalizing l state with
  | nil =>
    cases hrun
    exact ⟨[], .nil, by rwa [Lifecycle.withOwned_nil]⟩
  | cons u rest ih =>
    rw [List.map_cons, Installer.applyAll, bind_eq_andThen] at hrun
    have hinstall : Upholds world patience (fun _ => True) (fun state => (cluster state).Shows l o)
        (Installer.applyOne (fun c => c.applyBy .install) settings u.component) _ :=
      h.upholds_installOne hl u settings
    obtain ⟨-, hfirst⟩ := hinstall state trivial hstate
    obtain ⟨_, mid, hone, hrest⟩ := exists_run_of_andThen hrun
    rw [hone] at hfirst
    rcases hfirst () rfl with ⟨hout, hmid⟩ | ⟨hjoins, hmid⟩
    · obtain ⟨names, hinstalled, hafter⟩ := ih hl hmid hrest
      exact ⟨names, .leftOut hout hinstalled, hafter⟩
    · obtain ⟨names, hinstalled, hafter⟩ :=
        ih (l := l.withNew u.spec.id ownerLabels) hl hmid hrest
      exact ⟨u.spec.id :: names, .joined hjoins hinstalled, by rwa [Lifecycle.withOwned_cons]⟩

/-- Where the same is known of the units as after an installation, installing again is refused at
the first unit that was installed. -/
theorem fails_again (h : Isolates world cluster) (hJ : KeptByLooking world J) {now : Lifecycle}
    (hnow : now.terminating = []) {us : List ChartUnit} (hnodup : (unitIds us).Nodup)
    {names : List String} (hinstalled : Installed settings o l us names)
    (hsame : ∀ u ∈ us, Table.get? now.namespaces u.spec.id =
      Table.get? (l.withOwned names).namespaces u.spec.id)
    (hstate : (cluster state).Shows now o) (hj : J state) {id : String} {others : List String}
    (hnames : names = id :: others) :
    Fails world patience
      (Installer.applyAll (fun c => c.applyBy .install) settings (us.map ChartUnit.component))
      state (.inUnit id (.namespacePresent id)) fun state =>
        (cluster state).Shows now o ∧ J state := by
  induction hinstalled generalizing state with
  | nil => cases hnames
  | @leftOut l u rest names hout hrest ih =>
    obtain ⟨hfresh, hrestNodup⟩ := List.nodup_cons.mp hnodup
    -- what was created after this unit has other names
    have hunseen : Table.get? l.namespaces u.spec.id = Table.get? now.namespaces u.spec.id := by
      rw [hsame u (List.mem_cons_self ..), hrest.get?_of_fresh hfresh]
    apply (h.returns_applyOne_leftOut hnow hJ u .install (hout.congr hunseen) hstate hj).andThen_fails
    rintro after ⟨hstate, hj⟩
    exact ih hrestNodup (fun u hmem => hsame u (List.mem_cons_of_mem _ hmem)) hstate hj hnames
  | @joined l u rest names hjoins hrest ih =>
    cases hnames
    have howned : NamespaceState.ofFound (Table.get? now.namespaces u.spec.id) = .owned := by
      rw [hsame u (List.mem_cons_self ..)]
      exact Lifecycle.ofFound_withOwned hjoins.free (List.mem_cons_self ..)
    exact (h.fails_installOne_owned hnow hJ u hjoins.active howned hstate hj).andThen

end Cluster.Isolates

/-! ### What a removal has done -/

namespace Cluster

/-- No namespace is going away, and none of these is the installer's. -/
structure Lifecycle.Clear (l : Lifecycle) (ids : List String) : Prop where
  terminating : l.terminating = []
  spared : ∀ id ∈ ids, NamespaceState.ofFound (Table.get? l.namespaces id) ≠ .owned

theorem Lifecycle.Clear.append {l : Lifecycle} {ids : List String} {id : String} (h : l.Clear ids)
    (hid : NamespaceState.ofFound (Table.get? l.namespaces id) ≠ .owned) :
    l.Clear (ids ++ [id]) := by
  refine ⟨h.terminating, fun other hmem => ?_⟩
  rcases List.mem_append.mp hmem with hmem | hmem
  · exact h.spared other hmem
  · rwa [List.mem_singleton.mp hmem]

/-- A namespace that is gone is not the installer's, and nothing else has become so. -/
theorem Lifecycle.Clear.without {l : Lifecycle} {ids : List String} (h : l.Clear ids)
    (id : String) : (l.without id).Clear (ids ++ [id]) := by
  refine ⟨h.terminating, fun other hmem howned => ?_⟩
  obtain ⟨ns, hfound, hns⟩ := NamespaceState.ofFound_eq_owned_iff.mp howned
  by_cases heq : other = id
  · subst heq
    have hgone : Table.get? (l.without other).namespaces other = none :=
      Table.get?_erase_self _ _
    rw [hgone] at hfound
    cases hfound
  · have hother : other ∈ ids := by simpa [heq] using hmem
    refine h.spared other hother ?_
    have hkept : Table.get? (l.without id).namespaces other = Table.get? l.namespaces other :=
      Table.get?_erase_of_ne heq
    rw [← hkept]
    exact howned

namespace Hosts

variable {σ : Type} {world : World Action Action.Answer σ} {cluster : σ → Fake} {patience : Nat}
  {l : Lifecycle} {state : σ}

theorem upholds_working (h : Hosts world cluster) (hl : l.terminating = []) {α : Type}
    {s : Engine α} (hs : AsksOnly Action.LooksOrRuns s) :
    Upholds world patience (fun _ => True) (fun state => (cluster state).lifecycle = l) s
      fun _ state => (cluster state).lifecycle = l :=
  fun _ _ hstate => ⟨trivial, fun _ _ => h.run_keeps hl hs hstate⟩

/-- What is said has no effect on namespaces. -/
theorem upholds_say (h : Hosts world cluster) {level : Level} {text : String}
    (K : Lifecycle → Prop) :
    Upholds world patience (fun _ => True) (fun state => K (cluster state).lifecycle)
      (Engine.say level text) fun _ state => K (cluster state).lifecycle := by
  apply Upholds.ask fun _ state => K (cluster state).lifecycle
  · intro state _ hstate
    rw [h.spares _ state (by simp)]
    exact ⟨trivial, hstate⟩
  · exact fun _ => Upholds.done fun _ _ hstate => hstate

theorem upholds_deleteNamespace (h : Hosts world cluster) (hl : l.terminating = []) {name : String}
    (hhas : Table.has l.namespaces name = true) :
    Upholds world patience (fun _ => True) (fun state => (cluster state).lifecycle = l)
      (Engine.call (.deleteNamespace name)) fun _ state =>
        (cluster state).lifecycle = l.without name ∨
          ∃ n, (cluster state).lifecycle = l.fading name n := by
  apply Upholds.ask fun _ state => (cluster state).lifecycle = l.without name ∨
    ∃ n, (cluster state).lifecycle = l.fading name n
  · intro state _ hstate
    refine ⟨trivial, ?_⟩
    rw [h.holds, Fake.answer_deleteNamespace hstate hl hhas]
    split
    · exact Or.inl rfl
    · exact Or.inr ⟨_, rfl⟩
  · exact fun _ => Upholds.ofExcept fun _ _ _ _ hstate => hstate

/-- A wait for a deleted namespace ends well only when it is gone. -/
theorem upholds_awaitNamespaceGone (h : Hosts world cluster) (hl : l.terminating = [])
    {name : String} (hhas : Table.has l.namespaces name = true) (budget : Duration) :
    Upholds world patience (fun _ => True)
      (fun state => (cluster state).lifecycle = l.without name ∨
        ∃ n, (cluster state).lifecycle = l.fading name n)
      (awaitNamespaceGone name budget)
      fun _ state => (cluster state).lifecycle = l.without name := by
  obtain ⟨ns, hns⟩ := Table.exists_get?_of_has hhas
  have hgone {state : σ} (hstate : (cluster state).lifecycle = l.without name) :
      (world.answer (.call (.getNamespace name)) state).1 = .ok none := by
    rw [h.answers, Fake.answer_getNamespace hstate hl]
    exact congrArg Except.ok (Table.get?_erase_self _ _)
  apply Upholds.pollUntil
  · rintro state (hstate | ⟨n, hstate⟩) hjudge
    · rw [hgone hstate] at hjudge
      cases hjudge
    · rw [h.holds]
      cases n with
      | zero => exact Or.inl (Fake.answer_fading_zero hl hstate).2
      | succ n => exact Or.inr ⟨n, (Fake.answer_fading_succ hstate).2⟩
  · rintro state (hstate | ⟨n, hstate⟩) hjudge
    · exact h.answer_keeps (l := l.without name) hl (Or.inl trivial) hstate
    · rw [h.holds]
      cases n with
      | zero => exact (Fake.answer_fading_zero hl hstate).2
      | succ n =>
        -- while it has a look left, it is still seen
        rw [h.answers, (Fake.answer_fading_succ hstate).1, hns] at hjudge
        cases hjudge
  · rintro time state (hstate | ⟨n, hstate⟩)
    · exact Or.inl ((h.sleeps time state).trans hstate)
    · exact Or.inr ⟨n, (h.sleeps time state).trans hstate⟩

/-- What a unit that is removed to the end leaves of the namespaces. -/
theorem upholds_remove (h : Hosts world cluster) (u : ChartUnit) (hl : l.terminating = []) :
    Upholds world patience (fun _ => True) (fun state => (cluster state).lifecycle = l) u.remove
      fun _ state => NamespaceState.ofFound (Table.get? l.namespaces u.spec.id) ≠ .owned ∧
          (cluster state).lifecycle = l ∨
        (cluster state).lifecycle = l.without u.spec.id := by
  by_cases howned : NamespaceState.ofFound (Table.get? l.namespaces u.spec.id) = .owned
  · have hhas : Table.has l.namespaces u.spec.id = true := by
      obtain ⟨ns, hfound, -⟩ := NamespaceState.ofFound_eq_owned_iff.mp howned
      rw [Table.has_eq_isSome_get?, hfound]
      rfl
    apply (Returns.upholds fun _ hstate =>
      h.returns_guardRemove_owned patience hl howned hstate).andThen
    intro removing
    apply Upholds.knowing fun _ hguarded => hguarded.1
    rintro rfl
    refine Upholds.weaken ?_ (fun _ _ hguarded => hguarded.2) fun _ _ _ hgone => Or.inr hgone
    apply (h.upholds_working hl (Engine.looksOrRuns_of_onlyLooks (Engine.asksOnly_say _ _))).andThen
    intro _
    apply (h.upholds_working hl u.asksOnly_removeWorkload).andThen
    intro _
    apply (h.upholds_deleteNamespace hl hhas).andThen
    intro _
    apply (h.upholds_say fun l' => l' = l.without u.spec.id ∨ ∃ n, l' = l.fading u.spec.id n).andThen
    intro _
    apply (h.upholds_awaitNamespaceGone hl hhas _).andThen
    intro _
    exact h.upholds_say fun l' => l' = l.without u.spec.id
  · apply (Returns.upholds fun _ hstate =>
      h.returns_remove_spared patience u hl howned hstate).weaken
    · exact fun _ _ hstate => hstate
    · exact fun _ _ _ hafter => Or.inl ⟨howned, hafter.2⟩

/-- Removing components one after the other, without a failure, leaves none of their namespaces to
the installer. -/
theorem upholds_removeAll (h : Hosts world cluster) (us : List ChartUnit) (cleared : List String) :
    Upholds world patience (fun _ => True) (fun state => (cluster state).lifecycle.Clear cleared)
      (Installer.removeAll (us.map ChartUnit.component)) fun failures state => failures = [] →
        (cluster state).lifecycle.Clear (cleared ++ unitIds us) := by
  induction us generalizing cleared with
  | nil =>
    apply Upholds.done
    intro state _ hclear _
    rwa [unitIds, List.map_nil, List.append_nil]
  | cons u rest ih =>
    have hremoved : Upholds world patience (fun _ => True)
        (fun state => (cluster state).lifecycle.Clear cleared) u.component.remove
        fun _ state => (cluster state).lifecycle.Clear (cleared ++ [u.spec.id]) := by
      intro state _ hclear
      rw [u.remove_component]
      have hremove : Upholds world patience (fun _ => True)
          (fun after => (cluster after).lifecycle = (cluster state).lifecycle) u.remove _ :=
        h.upholds_remove u hclear.terminating
      obtain ⟨-, hafter⟩ := hremove state trivial rfl
      refine ⟨trivial, fun a ha => ?_⟩
      rcases hafter a ha with ⟨hspared, hsame⟩ | hgone
      · rw [hsame]
        exact hclear.append hspared
      · rw [hgone]
        exact hclear.without u.spec.id
    have hattempt : Upholds world patience (fun _ => True)
        (fun state => (cluster state).lifecycle.Clear cleared)
        (u.component.remove.attempt : Engine (Except DeployError Unit)) fun outcome state =>
          ∀ a, outcome = .ok a → (cluster state).lifecycle.Clear (cleared ++ [u.spec.id]) := by
      apply hremoved.handle
      · exact fun _ => Upholds.done fun _ _ hclear _ _ => hclear
      · exact fun _ => Upholds.done fun _ _ _ _ hok => nomatch hok
    apply hattempt.andThen
    intro outcome
    cases outcome with
    | ok a =>
      apply (ih (cleared ++ [u.spec.id])).weaken
      · exact fun _ _ hclear => hclear a rfl
      · intro failures state _ hclear hnone
        have hids : cleared ++ unitIds (u :: rest) = (cleared ++ [u.spec.id]) ++ unitIds rest := by
          simp [unitIds]
        rw [hids]
        exact hclear hnone
    | error e =>
      -- a failure is reported in the end
      apply (Upholds.promising_nothing _).andThen
      intro _
      apply (Upholds.promising_nothing _).andThen
      intro failures
      exact Upholds.done fun _ _ _ hnone => nomatch hnone

/-- What is known after components were removed without a failure. -/
theorem upholds_uninstall (h : Hosts world cluster) {i : Installer} {us : List ChartUnit}
    (hus : i.components = us.map ChartUnit.component) :
    Upholds world patience (fun _ => True) (fun state => (cluster state).terminating = [])
      i.uninstall fun _ state => (cluster state).lifecycle.Clear (unitIds us) := by
  have hreverse : i.components.reverse = us.reverse.map ChartUnit.component := by
    rw [hus, List.map_reverse]
  show Upholds _ _ _ _ ((Installer.removeAll i.components.reverse).andThen _) _
  rw [hreverse]
  apply ((h.upholds_removeAll us.reverse []).weaken (fun _ _ hterminating =>
    ⟨hterminating, fun _ hmem => nomatch hmem⟩) fun _ _ _ hclear => hclear).andThen
  intro failures
  cases failures with
  | nil =>
    apply Upholds.done
    intro state _ hclear
    refine ⟨(hclear rfl).terminating, fun id hid => (hclear rfl).spared id ?_⟩
    simpa [unitIds] using hid
  | cons failure failures => exact Upholds.fail

end Hosts

namespace Isolates

variable {σ : Type} {world : World Action Action.Answer σ} {cluster : σ → Fake} {patience : Nat}
  {l : Lifecycle} {o : Objects} {state : σ} {J : σ → Prop}

/-- Where no namespace is the installer's, removing only looks. -/
theorem returns_removeAll_clear (h : Isolates world cluster) (hJ : KeptByLooking world J)
    (us : List ChartUnit) (hclear : l.Clear (unitIds us)) (hstate : (cluster state).Shows l o)
    (hj : J state) :
    Returns world patience (Installer.removeAll (us.map ChartUnit.component)) state [] fun state =>
      (cluster state).Shows l o ∧ J state := by
  induction us generalizing state with
  | nil => exact Returns.done ⟨hstate, hj⟩
  | cons u rest ih =>
    have hspared := hclear.spared u.spec.id (List.mem_cons_self ..)
    have hremoved : Returns world patience u.component.remove state () fun state =>
        (cluster state).Shows l o ∧ J state := by
      rw [u.remove_component]
      apply (h.returns_looking hclear.terminating hJ (asksOnly_guardRemove _)
        (h.returns_guardRemove_spared patience hclear.terminating hspared hstate.lifecycle)
        hstate hj).andThen
      exact fun _ hafter => Returns.done hafter
    apply hremoved.attempt.andThen
    rintro after ⟨hstate, hj⟩
    apply ih _ hstate hj
    exact ⟨hclear.terminating, fun id hmem => hclear.spared id (List.mem_cons_of_mem _ hmem)⟩

theorem returns_uninstall_clear (h : Isolates world cluster) (hJ : KeptByLooking world J)
    {i : Installer} {us : List ChartUnit} (hus : i.components = us.map ChartUnit.component)
    (hclear : l.Clear (unitIds us)) (hstate : (cluster state).Shows l o) (hj : J state) :
    Returns world patience i.uninstall state () fun state =>
      (cluster state).Shows l o ∧ J state := by
  have hreverse : i.components.reverse = us.reverse.map ChartUnit.component := by
    rw [hus, List.map_reverse]
  show Returns _ _ ((Installer.removeAll i.components.reverse).andThen _) _ _ _
  rw [hreverse]
  have hclear' : l.Clear (unitIds us.reverse) := by
    refine ⟨hclear.terminating, fun id hid => hclear.spared id ?_⟩
    simpa [unitIds] using hid
  apply (h.returns_removeAll_clear hJ us.reverse hclear' hstate hj).andThen
  exact fun _ hafter => Returns.done hafter

end Isolates

end Cluster

/-- That nothing was touched is kept by looking. -/
theorem keptByLooking_untouched {σ : Type} (world : World Action Action.Answer σ) :
    KeptByLooking world.recording fun state => Untouched state.2 where
  answer a ha state h := by
    apply AskedOnly.append h
    rintro other answer heq
    cases heq
    exact ha
  sleep time state h := AskedOnly.append h fun _ _ heq => nomatch heq

namespace Installer

variable {catalog : Catalog}

/-- Runs are repeated.  Installing again after an installation that ended well is refused at the
first unit that was installed, and removing again after a removal that ended well ends well; neither
touches anything. -/
theorem run_again (hcheck : catalog.check = .ok ()) :
    ∃ i, ofCatalog catalog = .ok i ∧ ∀ (settings : Settings) {σ : Type}
      {world : World Action Action.Answer σ} {cluster : σ → Fake} (_ : Isolates world cluster)
      (patience patience' : Nat) (start after : σ), (cluster start).terminating = [] →
      (Script.run world patience { i with settings }.install start = (some (.ok ()), after) →
        ∃ names, (cluster after).created = (cluster start).created ++ names ∧
          names.Sublist (catalog.units.map UnitSpec.id) ∧
          ∀ id others, names = id :: others → ∃ final history,
            Script.run world.recording patience' { i with settings }.install (after, []) =
              (some (.error (.inUnit id (.namespacePresent id))), final, history) ∧
            Untouched history) ∧
      (Script.run world patience { i with settings }.uninstall start = (some (.ok ()), after) →
        (∀ u ∈ catalog.units, ∀ ns, Table.get? (cluster after).namespaces u.id = some ns →
          ns.isOwned = false) ∧
        ∃ final history,
          Script.run world.recording patience' { i with settings }.uninstall (after, []) =
            (some (.ok ()), final, history) ∧
          Untouched history) := by
  obtain ⟨i, us, hi, hus, hids, hnodup⟩ := exists_units hcheck
  have huntouched : Untouched [] := fun _ _ hmem => nomatch hmem
  refine ⟨i, hi, ?_⟩
  intro settings σ world cluster hworld patience patience' start after hterminating
  constructor
  · intro hrun
    have hinstall : { i with settings }.install =
        applyAll (fun c => c.applyBy .install) settings (us.map ChartUnit.component) := by
      rw [← hus]
      rfl
    rw [hinstall] at hrun ⊢
    obtain ⟨names, hinstalled, hafter⟩ :=
      hworld.installed_of_run (l := (cluster start).lifecycle) hterminating ⟨rfl, rfl⟩ hrun
    refine ⟨names, congrArg Lifecycle.created hafter.lifecycle, hids ▸ hinstalled.sublist, ?_⟩
    intro id others hnames
    have hrefused : Fails world.recording patience'
        (applyAll (fun c => c.applyBy .install) settings (us.map ChartUnit.component)) (after, [])
        (.inUnit id (.namespacePresent id)) fun state =>
          (cluster state.1).Shows ((cluster start).lifecycle.withOwned names)
            (cluster start).objects ∧ Untouched state.2 :=
      hworld.recording.fails_again (keptByLooking_untouched world) hterminating hnodup hinstalled
        (fun _ _ => rfl) hafter huntouched hnames
    obtain ⟨⟨final, history⟩, hrun', -, hquiet⟩ := hrefused
    exact ⟨final, history, hrun', hquiet⟩
  · intro hrun
    have hremoved : Upholds world patience (fun _ => True)
        (fun state => (cluster state).terminating = []) { i with settings }.uninstall
        fun _ state => (cluster state).lifecycle.Clear (unitIds us) :=
      hworld.toHosts.upholds_uninstall hus
    obtain ⟨-, hclear⟩ := hremoved start trivial hterminating
    rw [hrun] at hclear
    have hspared : (cluster after).lifecycle.Clear (unitIds us) := hclear () rfl
    constructor
    · intro u hu ns hfound
      have hid : u.id ∈ unitIds us := hids ▸ List.mem_map_of_mem hu
      apply Bool.eq_false_iff.mpr
      intro howned
      exact hspared.spared u.id hid (NamespaceState.ofFound_eq_owned_iff.mpr ⟨ns, hfound, howned⟩)
    · have hagain : Returns world.recording patience' { i with settings }.uninstall (after, []) ()
          fun state => (cluster state.1).Shows (cluster after).lifecycle (cluster after).objects ∧
            Untouched state.2 :=
        hworld.recording.returns_uninstall_clear (keptByLooking_untouched world) hus hspared
          ⟨rfl, rfl⟩ huntouched
      obtain ⟨⟨final, history⟩, hrun', -, hquiet⟩ := hagain
      exact ⟨final, history, hrun', hquiet⟩

/-- A chart is installed twice, removed and removed again. -/
theorem run_again_web :
    ∃ i installed removed,
      ofCatalog { units := [{ id := "web", chart := some "web" }] } = .ok i ∧
      Script.run (Fake.worldWith fun _ => .ok "") 1 i.install {} =
        (some (.ok ()), installed) ∧
      (∃ final history,
        Script.run (Fake.worldWith fun _ => .ok "").recording 0 i.install (installed, []) =
          (some (.error (.inUnit "web" (.namespacePresent "web"))), final, history) ∧
        Untouched history) ∧
      Script.run (Fake.worldWith fun _ => .ok "") 1 i.uninstall installed =
        (some (.ok ()), removed) ∧
      ∃ final history,
        Script.run (Fake.worldWith fun _ => .ok "").recording 0 i.uninstall (removed, []) =
          (some (.ok ()), final, history) ∧
        Untouched history := by
  have hcheck : Catalog.check { units := [{ id := "web", chart := some "web" }] } = .ok () := rfl
  obtain ⟨i, hi, hagain⟩ := run_again hcheck
  let world := Fake.worldWith fun _ => .ok ""
  have hworld : Isolates world id := Fake.isolates_worldWith _
  obtain ⟨installed, hinstall, hcreated, hterminating⟩ : ∃ installed,
      Script.run world 1 i.install {} = (some (.ok ()), installed) ∧ installed.created = ["web"] ∧
        installed.terminating = [] := by
    cases hi
    exact ⟨_, rfl, rfl, rfl⟩
  obtain ⟨removed, huninstall⟩ : ∃ removed,
      Script.run world 1 i.uninstall installed = (some (.ok ()), removed) := by
    cases hi
    cases hinstall
    exact ⟨_, rfl⟩
  obtain ⟨names, hnames, -, hrefused⟩ :=
    (hagain i.settings hworld 1 0 {} installed rfl).1 hinstall
  have hweb : names = ["web"] := hnames.symm.trans hcreated
  have hremoved := (hagain i.settings hworld 1 0 installed removed hterminating).2 huninstall
  exact ⟨i, installed, removed, hi, hinstall, hrefused "web" [] hweb, huninstall, hremoved.2⟩

end Installer

end Groundwork
