import Groundwork.Proofs.Installer.Repetition
import Groundwork.Proofs.Script.Mirroring

/-!
# Upgrading replays installing

Where every command succeeds, an upgrade right after an installation that ended well ends well too,
creates and deletes nothing, and runs the commands of the installation once more, with
`helm upgrade` in the place of `helm install` (`Installer.upgrade_replays_install`).

The two runs are followed side by side with `Mirrors`.  What relates their states is `Replays`: the
objects are the same, the installation is on its way to what the upgrade sees, and so far the upgrade
has run the commands of the installation, `upgraded`.
-/

namespace Groundwork

open Script Cluster

/-! ### Commands -/

/-- The command that was run. -/
def command? : Occurrence Action Action.Answer → Option Invocation
  | .asked (.run i) _ => some i
  | _ => none

/-- The commands that were run, in order. -/
def commands (history : WorkHistory) : List Invocation :=
  history.filterMap command?

theorem commands_append (before after : WorkHistory) :
    commands (before ++ after) = commands before ++ commands after :=
  List.filterMap_append

/-- The command with `helm upgrade` in the place of `helm install`. -/
def Invocation.upgraded (i : Invocation) : Invocation :=
  if i.program = "helm" ∧ i.args.head? = some "install" then
    { i with args := "upgrade" :: i.args.tail }
  else i

theorem Invocation.upgraded_of_kubectl {i : Invocation} (h : i.program = "kubectl") :
    i.upgraded = i := by
  refine if_neg fun hhelm => ?_
  rw [h] at hhelm
  exact absurd hhelm.1 (by decide)

/-- A unit is upgraded by the command that installs it, upgraded. -/
theorem ChartUnit.applyCommand_upgrade (u : ChartUnit) (settings : Settings)
    (extra : List (String × String)) :
    u.applyCommand .upgrade settings extra =
      (u.applyCommand .install settings extra).map Invocation.upgraded := by
  unfold applyCommand
  by_cases hkind : u.spec.kind = .manifest
  · simp only [hkind, ↓reduceIte, Except.map]
    rw [Invocation.upgraded_of_kubectl rfl]
  · simp only [hkind, ↓reduceIte]
    cases u.filledValues settings with
    | error e => rfl
    | ok values => rfl

/-- Every command succeeds. -/
def Obliges {σ : Type} (world : World Action Action.Answer σ) : Prop :=
  ∀ i state, ∃ o : CommandOutput, (world.answer (.run i) state).1 = .ok o ∧ o.success = true

section Recorded

variable {σ : Type} {world : World Action Action.Answer σ}

theorem commands_answer {a : Action} (ha : ∀ i, a ≠ .run i) (state : σ × WorkHistory) :
    commands (world.recording.answer a state).2.2 = commands state.2 := by
  rw [World.recording_answer, commands_append]
  cases a with
  | run i => exact absurd rfl (ha i)
  | _ => exact List.append_nil _

theorem commands_sleep (time : Duration) (state : σ × WorkHistory) :
    commands (world.recording.sleep time state).2 = commands state.2 := by
  rw [World.recording_sleep, commands_append]
  exact List.append_nil _

/-- Looking runs no command. -/
theorem keptByLooking_commands (world : World Action Action.Answer σ) (is : List Invocation) :
    KeptByLooking world.recording fun state => commands state.2 = is where
  answer a ha state h := by
    rw [commands_answer _ state, h]
    rintro i rfl
    exact ha
  sleep time state h := (commands_sleep time state).trans h

end Recorded

/-! ### Two runs -/

/-- An installation and the upgrade after it, on the way: the installation has got as far as `l`, the
upgrade sees `now`, and it has run the same commands. -/
structure Replays {σ : Type} (cluster : σ → Fake) (l now : Lifecycle) (o : Objects)
    (left right : σ × WorkHistory) : Prop where
  installing : (cluster left.1).Shows l o
  upgrading : (cluster right.1).Shows now o
  commands : commands right.2 = (commands left.2).map Invocation.upgraded

namespace Cluster.Isolates

variable {σ α β : Type} {world : World Action Action.Answer σ} {cluster : σ → Fake}
  {patience : Nat} {l now : Lifecycle} {o : Objects}

/-- Parts that only look, with known results. -/
theorem mirrors_quiet {s : Engine α} {t : Engine β} {a : α} {b : β}
    (hs : ∀ {J : σ × WorkHistory → Prop} {state}, KeptByLooking world.recording J →
      (cluster state.1).Shows l o → J state →
        Returns world.recording patience s state a fun state =>
          (cluster state.1).Shows l o ∧ J state)
    (ht : ∀ {J : σ × WorkHistory → Prop} {state}, KeptByLooking world.recording J →
      (cluster state.1).Shows now o → J state →
        Returns world.recording patience t state b fun state =>
          (cluster state.1).Shows now o ∧ J state) :
    Mirrors world.recording patience (Replays cluster l now o) s t fun a' b' left right =>
      (a' = a ∧ b' = b) ∧ Replays cluster l now o left right := by
  apply Mirrors.of_returns fun a' left right => a' = a ∧ Replays cluster l now o left right
  · intro left right hR
    refine ⟨a, (hs (keptByLooking_commands world _) hR.installing rfl).weaken ?_⟩
    rintro left' ⟨hshows, hcommands⟩
    exact ⟨rfl, hshows, hR.upgrading, by rw [hcommands, hR.commands]⟩
  · rintro a' left right ⟨rfl, hR⟩
    refine ⟨b, (ht (keptByLooking_commands world _) hR.upgrading rfl).weaken ?_⟩
    rintro right' ⟨hshows, hcommands⟩
    exact ⟨⟨rfl, rfl⟩, hR.installing, hshows, by rw [hcommands, hR.commands]⟩

/-- What both say. -/
theorem mirrors_say (h : Isolates world cluster) (hl : l.terminating = [])
    (hnow : now.terminating = []) (level : Level) (text text' : String) :
    Mirrors world.recording patience (Replays cluster l now o) (Engine.say level text)
      (Engine.say level text') fun _ _ => Replays cluster l now o :=
  (mirrors_quiet (fun hJ => h.recording.returns_say hl hJ level text)
    fun hJ => h.recording.returns_say hnow hJ level text').weaken (fun _ _ hR => hR)
      fun _ _ _ _ hR => hR.2

/-- Looks at objects that both take are answered alike. -/
theorem mirrors_looks (h : Isolates world cluster) (hl : l.terminating = [])
    (hnow : now.terminating = []) {s : Engine α} (hs : AsksOnly Action.LooksAtObjects s) :
    Mirrors world.recording patience (Replays cluster l now o) s s fun a b left right =>
      a = b ∧ Replays cluster l now o left right := by
  apply Mirrors.alike hs
  · intro a ha left right hR
    have hanswer : (world.recording.answer a left).1 = (world.recording.answer a right).1 := by
      cases a with
      | call c =>
        show (world.answer (.call c) left.1).1 = (world.answer (.call c) right.1).1
        rw [h.answers, h.answers]
        exact Fake.answer_eq_of_objects ha (hR.installing.objects.trans hR.upgrading.objects.symm)
      | run i => exact ha.elim
      | connect => exact ha.elim
      | say level text => rfl
      | print text => rfl
      | note entry => rfl
    have hleft := (keptByLooking_commands world _).answer a ha.onlyLooks left rfl
    have hright := (keptByLooking_commands world _).answer a ha.onlyLooks right rfl
    refine ⟨hanswer, h.recording.shows_answer hl (Or.inl ha.onlyLooks) hR.installing,
      h.recording.shows_answer hnow (Or.inl ha.onlyLooks) hR.upgrading, ?_⟩
    rw [hleft, hright, hR.commands]
  · intro time left right hR
    have hleft := (keptByLooking_commands world _).sleep time left rfl
    have hright := (keptByLooking_commands world _).sleep time right rfl
    refine ⟨h.recording.shows_sleep time hR.installing, h.recording.shows_sleep time hR.upgrading, ?_⟩
    rw [hleft, hright, hR.commands]

/-! ### Commands of both -/

theorem returns_runChecked_obliging (h : Isolates world cluster) (hobliges : Obliges world)
    (hl : l.terminating = []) (i : Invocation) {state : σ × WorkHistory}
    (hstate : (cluster state.1).Shows l o) :
    ∃ out, Returns world.recording patience (Engine.runChecked i []) state out fun after =>
      (cluster after.1).Shows l o ∧ commands after.2 = commands state.2 ++ [i] := by
  obtain ⟨out, hanswer, hsuccess⟩ := hobliges i state.1
  have hrun : Returns world.recording patience (Engine.run i) state out fun after =>
      (cluster after.1).Shows l o ∧ commands after.2 = commands state.2 ++ [i] := by
    apply Returns.ask
    apply Returns.ofExcept hanswer
    refine ⟨h.recording.shows_answer hl (Or.inr ⟨i, rfl⟩) hstate, ?_⟩
    rw [World.recording_answer, commands_append]
    rfl
  refine ⟨out, hrun.andThen fun after hafter => ?_⟩
  exact Returns.ofExcept (Engine.judgeOutput_eq_ok.mpr ⟨rfl, Or.inl hsuccess⟩) hafter

/-- A command, and the upgraded one. -/
theorem mirrors_command {i : Invocation} {s t : Engine CommandOutput}
    (hs : ∀ {state : σ × WorkHistory}, (cluster state.1).Shows l o →
      ∃ out, Returns world.recording patience s state out fun after =>
        (cluster after.1).Shows l o ∧ commands after.2 = commands state.2 ++ [i])
    (ht : ∀ {state : σ × WorkHistory}, (cluster state.1).Shows now o →
      ∃ out, Returns world.recording patience t state out fun after =>
        (cluster after.1).Shows now o ∧ commands after.2 = commands state.2 ++ [i.upgraded]) :
    Mirrors world.recording patience (Replays cluster l now o) s t fun _ _ =>
      Replays cluster l now o := by
  apply Mirrors.of_returns fun _ left right => (cluster left.1).Shows l o ∧
    (cluster right.1).Shows now o ∧
      commands right.2 ++ [i.upgraded] = (commands left.2).map Invocation.upgraded
  · intro left right hR
    obtain ⟨out, hrun⟩ := hs hR.installing
    refine ⟨out, hrun.weaken ?_⟩
    rintro left' ⟨hshows, hcommands⟩
    refine ⟨hshows, hR.upgrading, ?_⟩
    rw [hcommands, hR.commands, List.map_append, List.map_singleton]
  · rintro out left right ⟨hleft, hright, hcommands⟩
    obtain ⟨out', hrun⟩ := ht hright
    refine ⟨out', hrun.weaken ?_⟩
    rintro right' ⟨hshows, hcommands'⟩
    exact ⟨hleft, hshows, by rw [hcommands', hcommands]⟩

/-! ### Units -/

theorem mirrors_applyFollowing (h : Isolates world cluster) (hobliges : Obliges world)
    (hl : l.terminating = []) (hnow : now.terminating = []) (u : ChartUnit) (settings : Settings)
    (manifests : List String) :
    Mirrors world.recording patience (Replays cluster l now o) (u.applyFollowing settings manifests)
      (u.applyFollowing settings manifests) fun _ _ => Replays cluster l now o := by
  induction manifests with
  | nil => exact Mirrors.done fun _ _ hR => hR
  | cons manifest rest ih =>
    rw [ChartUnit.applyFollowing, bind_eq_andThen]
    rcases hfill : Template.fill id settings u.spec.id manifest with fault | text
    · exact Mirrors.fail
    · apply (h.mirrors_say hl hnow _ _ _).andThen
      intro _ _
      have hrun {l : Lifecycle} (hl : l.terminating = []) (command : Invocation)
          {state : σ × WorkHistory} (hstate : (cluster state.1).Shows l o) :
          ∃ out, Returns world.recording patience (Engine.runRetried u.retryPolicy command) state
            out fun after => (cluster after.1).Shows l o ∧
              commands after.2 = commands state.2 ++ [command] := by
        obtain ⟨out, hout⟩ := h.returns_runChecked_obliging hobliges hl command hstate
        exact ⟨out, hout.retryIf⟩
      apply (mirrors_command (hrun hl _) ?_).andThen
      · exact fun _ _ => ih
      · rw [Invocation.upgraded_of_kubectl rfl]
        exact hrun hnow _

/-- Applying a unit to upgrade it goes like applying it to install it. -/
theorem mirrors_apply (h : Isolates world cluster) (hobliges : Obliges world)
    (hl : l.terminating = []) (hnow : now.terminating = []) (u : ChartUnit) (settings : Settings)
    (extra : List (String × String)) :
    Mirrors world.recording patience (Replays cluster l now o) (u.apply .install settings extra)
      (u.apply .upgrade settings extra) fun _ _ => Replays cluster l now o := by
  rw [ChartUnit.apply, ChartUnit.apply, u.applyCommand_upgrade]
  rcases u.applyCommand .install settings extra with fault | command
  · exact Mirrors.fail
  · apply (h.mirrors_say hl hnow _ _ _).andThen
    intro _ _
    apply (mirrors_command (h.returns_runChecked_obliging hobliges hl command)
      (h.returns_runChecked_obliging hobliges hnow _)).andThen
    intro _ _
    apply (h.mirrors_looks hl hnow u.looksAtObjects_awaitReady).andThen
    intro _ _
    exact (h.mirrors_applyFollowing hobliges hl hnow u settings _).weaken (fun _ _ hR => hR.2)
      fun _ _ _ _ hR => hR

/-- The installation claims a namespace that was free, the upgrade the one that is there. -/
theorem mirrors_claim (h : Isolates world cluster) (hl : l.terminating = [])
    (hnow : now.terminating = []) (u : ChartUnit)
    (howned : NamespaceState.ofFound (Table.get? now.namespaces u.spec.id) = .owned) :
    Mirrors world.recording patience (Replays cluster l now o) (u.claim .install)
      (u.claim .upgrade) fun _ _ =>
        Replays cluster (l.withNew u.spec.id ownerLabels) now o := by
  refine ⟨fun {left right left' a} hR hrun => ?_⟩
  have hclaimed : Upholds world.recording patience (fun _ => True)
      (fun state => (cluster state.1).Shows l o) (u.claim .install) fun _ state =>
        Table.has l.namespaces u.spec.id = false ∧
          (cluster state.1).Shows (l.withNew u.spec.id ownerLabels) o :=
    h.recording.upholds_claim_install hl u
  obtain ⟨-, hafter⟩ := hclaimed left trivial hR.installing
  -- claiming is not only looking, but it runs no command either
  have hcommands : commands (Script.run world.recording patience (u.claim .install) left).2.2 =
      commands left.2 := by
    have hclaim : AsksOnly (fun a => ∀ i, a ≠ .run i) (u.claim .install) :=
      u.asksOnly_claim (fun _ _ => nofun) nofun nofun .install
    apply hclaim.run_keeps (J := fun state : σ × WorkHistory => commands state.2 = commands left.2)
    · exact fun a ha state hstate => (commands_answer ha state).trans hstate
    · exact fun time state hstate => (commands_sleep time state).trans hstate
    · rfl
  rw [hrun] at hafter hcommands
  have hupgrading : Returns world.recording patience (u.claim .upgrade) right () fun state =>
      (cluster state.1).Shows now o ∧ commands state.2 = commands right.2 :=
    h.recording.returns_claim_upgrade hnow (keptByLooking_commands world _) u howned hR.upgrading rfl
  obtain ⟨right', hrun', hshows, hcommands'⟩ := hupgrading
  refine ⟨(), right', hrun', (hafter a rfl).2, hshows, ?_⟩
  rw [hcommands', hcommands, hR.commands]

/-- Unless it is skipped, a unit is upgraded like it was installed. -/
theorem mirrors_applyWith (h : Isolates world cluster) (hobliges : Obliges world)
    (hl : l.terminating = []) (hnow : now.terminating = []) (u : ChartUnit) {settings : Settings}
    (extra : List (String × String)) (hactive : u.skipReason settings = .ok none)
    (howned : NamespaceState.ofFound (Table.get? now.namespaces u.spec.id) = .owned) :
    Mirrors world.recording patience (Replays cluster l now o)
      (u.applyWith .install settings extra) (u.applyWith .upgrade settings extra)
      fun a b left right => (a = true ∧ b = true) ∧
        Replays cluster (l.withNew u.spec.id ownerLabels) now o left right := by
  rw [u.applyWith_of_active hactive, u.applyWith_of_active hactive]
  apply (h.mirrors_claim hl hnow u howned).andThen
  intro _ _
  have hclaimed : (l.withNew u.spec.id ownerLabels).terminating = [] := hl
  apply (h.mirrors_apply hobliges hclaimed hnow u settings extra).andThen
  intro _ _
  apply (h.mirrors_say hclaimed hnow _ _ _).andThen
  intro _ _
  exact Mirrors.done fun _ _ hR => ⟨⟨rfl, rfl⟩, hR⟩

theorem mirrors_applyOne_joined (h : Isolates world cluster) (hobliges : Obliges world)
    (hl : l.terminating = []) (hnow : now.terminating = []) (u : ChartUnit) {settings : Settings}
    (hjoins : u.Joins settings l o)
    (howned : NamespaceState.ofFound (Table.get? now.namespaces u.spec.id) = .owned) :
    Mirrors world.recording patience (Replays cluster l now o)
      (Installer.applyOne (fun c => c.applyBy .install) settings u.component)
      (Installer.applyOne (fun c => c.applyBy .upgrade) settings u.component)
      fun _ _ => Replays cluster (l.withNew u.spec.id ownerLabels) now o := by
  have hprovided : Mirrors world.recording patience (Replays cluster l now o)
      u.component.provided u.component.provided fun a b left right =>
        (a = none ∧ b = none) ∧ Replays cluster l now o left right := by
    apply mirrors_quiet
    · intro J state hJ hstate hj
      rw [← hjoins.provided]
      exact h.recording.returns_provided hl hJ u hstate hj
    · intro J state hJ hstate hj
      rw [← ChartUnit.providedOn_of_owned howned]
      exact h.recording.returns_provided hnow hJ u hstate hj
  rw [Installer.applyOne, Installer.applyOne, u.id_component]
  apply Mirrors.mapError
  -- neither run steps aside for what the cluster has already
  apply hprovided.andThen
  intro a b
  apply Mirrors.knowing fun _ _ hnone => hnone.1
  rintro ⟨rfl, rfl⟩
  refine Mirrors.weaken ?_ (fun _ _ hR => hR.2) fun _ _ _ _ hR => hR
  dsimp only
  rw [u.applyBy_component, u.applyBy_component]
  split
  · -- both find the same nodes, so they pass the same values on
    apply (h.mirrors_looks hl hnow (IngressUnit.asksOnly_exposure trivial trivial)).andThen
    intro exposed exposed'
    apply Mirrors.knowing fun _ _ hsame => hsame.1
    rintro rfl
    refine Mirrors.weaken ?_ (fun _ _ hR => hR.2) fun _ _ _ _ hR => hR
    apply (h.mirrors_applyWith hobliges hl hnow u exposed.1 hjoins.active howned).andThen
    intro applied applied'
    apply Mirrors.knowing fun _ _ happlied => happlied.1
    rintro ⟨rfl, rfl⟩
    refine Mirrors.weaken ?_ (fun _ _ hR => hR.2) fun _ _ _ _ hR => hR
    have hclaimed : (l.withNew u.spec.id ownerLabels).terminating = [] := hl
    split
    · exact (h.mirrors_looks hclaimed hnow (IngressUnit.looksAtObjects_awaitReachable ⟨u⟩)).weaken
        (fun _ _ hR => hR) fun _ _ _ _ hR => hR.2
    · exact Mirrors.done fun _ _ hR => hR
  · apply (h.mirrors_applyWith hobliges hl hnow u [] hjoins.active howned).andThen
    intro _ _
    exact Mirrors.done fun _ _ hR => hR.2

/-! ### Whole runs -/

/-- The upgrade goes through the units like the installation did. -/
theorem mirrors_applyAll (h : Isolates world cluster) (hobliges : Obliges world)
    (hl : l.terminating = []) (hnow : now.terminating = []) {settings : Settings}
    {us : List ChartUnit} (hnodup : (unitIds us).Nodup) {names : List String}
    (hinstalled : Installed settings o l us names)
    (hsame : ∀ u ∈ us, Table.get? now.namespaces u.spec.id =
      Table.get? (l.withOwned names).namespaces u.spec.id) :
    Mirrors world.recording patience (Replays cluster l now o)
      (Installer.applyAll (fun c => c.applyBy .install) settings (us.map ChartUnit.component))
      (Installer.applyAll (fun c => c.applyBy .upgrade) settings (us.map ChartUnit.component))
      fun _ _ => Replays cluster (l.withOwned names) now o := by
  induction hinstalled with
  | nil =>
    rw [Lifecycle.withOwned_nil]
    exact Mirrors.done fun _ _ hR => hR
  | @leftOut l u rest names hout hrest ih =>
    obtain ⟨hfresh, hrestNodup⟩ := List.nodup_cons.mp hnodup
    have hunseen : Table.get? l.namespaces u.spec.id = Table.get? now.namespaces u.spec.id := by
      rw [hsame u (List.mem_cons_self ..), hrest.get?_of_fresh hfresh]
    have hfirst : Mirrors world.recording patience (Replays cluster l now o)
        (Installer.applyOne (fun c => c.applyBy .install) settings u.component)
        (Installer.applyOne (fun c => c.applyBy .upgrade) settings u.component)
        fun _ _ left right => (() = () ∧ () = ()) ∧ Replays cluster l now o left right :=
      mirrors_quiet (fun hJ => h.recording.returns_applyOne_leftOut hl hJ u .install hout)
        fun hJ => h.recording.returns_applyOne_leftOut hnow hJ u .upgrade (hout.congr hunseen)
    apply hfirst.andThen
    intro _ _
    exact (ih hl hrestNodup fun u hmem => hsame u (List.mem_cons_of_mem _ hmem)).weaken
      (fun _ _ hR => hR.2) fun _ _ _ _ hR => hR
  | @joined l u rest names hjoins hrest ih =>
    obtain ⟨hfresh, hrestNodup⟩ := List.nodup_cons.mp hnodup
    have howned : NamespaceState.ofFound (Table.get? now.namespaces u.spec.id) = .owned := by
      rw [hsame u (List.mem_cons_self ..)]
      exact Lifecycle.ofFound_withOwned hjoins.free (List.mem_cons_self ..)
    apply (h.mirrors_applyOne_joined hobliges hl hnow u hjoins howned).andThen
    intro _ _
    rw [Lifecycle.withOwned_cons] at hsame ⊢
    exact ih hl hrestNodup fun u hmem => hsame u (List.mem_cons_of_mem _ hmem)

end Cluster.Isolates

namespace Installer

variable {catalog : Catalog}

/-- Where every command succeeds, an upgrade right after an installation that ended well ends well.
It creates and deletes nothing, and it runs the commands of the installation, upgraded. -/
theorem upgrade_replays_install (hcheck : catalog.check = .ok ()) :
    ∃ i, ofCatalog catalog = .ok i ∧ ∀ (settings : Settings) {σ : Type}
      {world : World Action Action.Answer σ} {cluster : σ → Fake} (_ : Isolates world cluster)
      (_ : Obliges world) (patience : Nat) (start after : σ) (history : WorkHistory),
      (cluster start).terminating = [] →
      Script.run world.recording patience { i with settings }.install (start, []) =
        (some (.ok ()), after, history) →
      ∃ final history',
        Script.run world.recording patience { i with settings }.upgrade (after, []) =
          (some (.ok ()), final, history') ∧
        commands history' = (commands history).map Invocation.upgraded ∧
        (cluster final).created = (cluster after).created ∧
        (cluster final).deleted = (cluster after).deleted := by
  obtain ⟨i, us, hi, hus, -, hnodup⟩ := exists_units hcheck
  refine ⟨i, hi, ?_⟩
  intro settings σ world cluster hworld hobliges patience start after history hterminating hrun
  have hinstall : { i with settings }.install =
      applyAll (fun c => c.applyBy .install) settings (us.map ChartUnit.component) := by
    rw [← hus]
    rfl
  have hupgrade : { i with settings }.upgrade =
      applyAll (fun c => c.applyBy .upgrade) settings (us.map ChartUnit.component) := by
    rw [← hus]
    rfl
  rw [hinstall] at hrun
  rw [hupgrade]
  obtain ⟨names, hinstalled, hafter⟩ :=
    hworld.recording.installed_of_run (l := (cluster start).lifecycle) hterminating ⟨rfl, rfl⟩ hrun
  -- the upgrade starts from the end of the installation that it follows
  have hreplays : Replays cluster (cluster start).lifecycle
      ((cluster start).lifecycle.withOwned names) (cluster start).objects (start, []) (after, []) :=
    ⟨⟨rfl, rfl⟩, hafter, rfl⟩
  obtain ⟨_, ⟨final, history'⟩, hrun', hdone⟩ :=
    (hworld.mirrors_applyAll hobliges hterminating hterminating hnodup hinstalled
      fun _ _ => rfl).of_run hreplays hrun
  have hsame : (cluster final).lifecycle = (cluster after).lifecycle :=
    hdone.upgrading.lifecycle.trans hafter.lifecycle.symm
  exact ⟨final, history', hrun', hdone.commands, congrArg Lifecycle.created hsame,
    congrArg Lifecycle.deleted hsame⟩

/-- A manifest and a chart are installed and upgraded. -/
theorem upgrade_replays_install_web :
    ∃ i after final history history',
      ofCatalog
          { units := [{ id := "rules", kind := .manifest, manifest := some "rules" },
            { id := "web", chart := some "web" }] } =
        .ok i ∧
      Script.run (Fake.worldWith fun _ => .ok "").recording 1 i.install ({}, []) =
        (some (.ok ()), after, history) ∧
      (commands history).map Invocation.program = ["kubectl", "helm"] ∧
      Script.run (Fake.worldWith fun _ => .ok "").recording 1 i.upgrade (after, []) =
        (some (.ok ()), final, history') ∧
      commands history' = (commands history).map Invocation.upgraded ∧
      final.created = after.created ∧ final.deleted = after.deleted := by
  have hcheck : Catalog.check
      { units := [{ id := "rules", kind := .manifest, manifest := some "rules" },
        { id := "web", chart := some "web" }] } = .ok () := rfl
  obtain ⟨i, hi, hreplay⟩ := upgrade_replays_install hcheck
  let world := Fake.worldWith fun _ => .ok ""
  have hworld : Isolates world id := Fake.isolates_worldWith _
  have hobliges : Obliges world := fun _ _ => ⟨_, rfl, rfl⟩
  obtain ⟨after, history, hinstall, hprograms⟩ : ∃ after history,
      Script.run world.recording 1 i.install ({}, []) = (some (.ok ()), after, history) ∧
        (commands history).map Invocation.program = ["kubectl", "helm"] := by
    cases hi
    exact ⟨_, _, rfl, rfl⟩
  obtain ⟨final, history', hupgrade⟩ :=
    hreplay i.settings hworld hobliges 1 {} after history rfl hinstall
  exact ⟨i, after, final, history, history', hi, hinstall, hprograms, hupgrade⟩

end Installer

end Groundwork
