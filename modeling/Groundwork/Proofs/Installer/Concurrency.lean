import Groundwork.Proofs.Cluster.Standing
import Groundwork.Proofs.Component.NamespaceSafety
import Groundwork.Proofs.Installer.Growth
import Groundwork.Proofs.Script.Interleaving

/-!
# Installations at the same time

Several installations take turns on one cluster, one request at a time.  Two of them may both see
that a namespace is missing, but only one of them can create it, and nothing is run for a unit by an
installation that has not created its namespace.  So no two installations work on the same unit, and
no namespace is created twice (`Installer.interleave_installs`).

The proof keeps two things along an interleaving.  `Sole` is about the cluster: what was created
stands, and one installation alone has created it.  `Bound` is about one installation: of a unit
whose namespace it has not created it has run no command, nor will it before it has.
-/

namespace Groundwork

open Script Cluster

/-! ### Signed installations -/

/-- An action, signed with who asks for it, and for which component. -/
abbrev SignedAction (ι : Type) : Type := (ι × String) × Action

/-- What a signed action gives back. -/
abbrev SignedAction.Answer {ι : Type} (request : SignedAction ι) : Type := request.2.Answer

/-- What has happened in installations that sign. -/
abbrev SignedHistory (ι : Type) : Type :=
  History (SignedAction ι) SignedAction.Answer

/-- A script of signed actions. -/
abbrev SignedEngine (ι α : Type) : Type :=
  Script (SignedAction ι) SignedAction.Answer DeployError α

namespace Installer

variable {ι : Type}

/-- Installs components in order, and signs for each. -/
def installAllAs (who : ι) (settings : Settings) : List Component → SignedEngine ι Unit
  | [] => .done ()
  | c :: rest =>
    ((applyOne Component.install settings c).signed (who, c.id)).andThen fun _ =>
      installAllAs who settings rest

/-- Installs every component, and signs for each. -/
def installAs (who : ι) (i : Installer) : SignedEngine ι Unit :=
  installAllAs who i.settings i.components

theorem unsigned_installAllAs (who : ι) (settings : Settings) (components : List Component) :
    (installAllAs who settings components).unsigned =
      applyAll Component.install settings components := by
  induction components with
  | nil => rfl
  | cons c rest ih =>
    rw [installAllAs, unsigned_andThen, unsigned_signed, ih]
    rfl

/-- Without the signatures, it is the installation. -/
theorem unsigned_installAs (who : ι) (i : Installer) : (i.installAs who).unsigned = i.install :=
  unsigned_installAllAs who i.settings i.components

/-- An installation that is played to its end is an interleaving in which nobody else has a turn. -/
theorem alone_installAs [DecidableEq ι] {σ : Type} {world : World Action Action.Answer σ}
    {patience : Nat} {i : Installer} {who : ι} {runs : ι → SignedEngine ι Unit} {state after : σ}
    {outcome : Except DeployError Unit}
    (h : Script.run world patience i.install state = (some outcome, after)) :
    Alone (World.unsigning world) runs who (i.installAs who, state)
      (Script.ofExcept outcome, after) := by
  have hsigned : (i.installAs who).run (World.unsigning world) patience state =
      (some outcome, after) := by
    rw [run_unsigning, unsigned_installAs, h]
  exact alone_of_run hsigned

end Installer

/-! ### What an installation asks -/

section Asking

variable {id : String}

/-- No command is run before the namespace was created. -/
abbrev RunsAfterCreation (id : String) {α : Type} (s : Engine α) : Prop :=
  AsksUntil (· = creation id) (fun a => ∀ i, a ≠ .run i) s

theorem runsAfterCreation_of_onlyLooks {α : Type} {s : Engine α} (h : AsksOnly Action.OnlyLooks s) :
    RunsAfterCreation id s := by
  apply AsksUntil.of_asksOnly
  apply h.mono
  rintro a ha i rfl
  exact ha

/-- A namespace that was created opens all that follows. -/
theorem runsAfterCreation_createOwned {β : Type} (id : String) (f : Unit → Engine β) :
    RunsAfterCreation id ((createOwned id).andThen f) := by
  refine ⟨nofun, fun answer hshut => ?_⟩
  -- the creation opens the rest, and a refusal ends it
  replace hshut : ¬ .asked (.call (.createNamespace id ownerLabels)) answer = creation id := hshut
  cases answer with
  | ok created => exact absurd rfl hshut
  | error e => trivial

theorem ChartUnit.runsAfterCreation_installWith (u : ChartUnit) (settings : Settings)
    (extra : List (String × String)) :
    RunsAfterCreation u.spec.id (u.installWith settings extra) := by
  apply (AsksUntil.of_asksOnly (Engine.asksOnly_ofSetup _)).andThen
  intro skipped
  cases skipped with
  | some reason =>
    apply runsAfterCreation_of_onlyLooks
    exact (Engine.asksOnly_say _ _).andThen fun _ => trivial
  | none =>
    apply (runsAfterCreation_of_onlyLooks (asksOnly_guardInstall trivial)).andThen
    intro _
    apply (runsAfterCreation_of_onlyLooks (Engine.asksOnly_say _ _)).andThen
    intro _
    exact runsAfterCreation_createOwned _ _

theorem Component.runsAfterCreation_installOne {spec : UnitSpec} {budgets : Budgets} {c : Component}
    (hc : ofSpec spec budgets = .ok c) (settings : Settings) :
    RunsAfterCreation c.id (Installer.applyOne install settings c) := by
  apply AsksUntil.mapError
  apply (runsAfterCreation_of_onlyLooks (asksOnly_provided hc)).andThen
  intro reason
  cases reason with
  | some reason => exact runsAfterCreation_of_onlyLooks (Engine.asksOnly_say _ _)
  | none =>
    obtain ⟨u, -, -, -, hkind⟩ := cases_of_ofSpec hc
    rcases hkind with rfl | rfl
    · exact (u.runsAfterCreation_installWith _ _).andThen fun _ => trivial
    · apply (runsAfterCreation_of_onlyLooks (IngressUnit.asksOnly_exposure trivial trivial)).andThen
      rintro ⟨values, balanced⟩
      apply (u.runsAfterCreation_installWith _ values).andThen
      intro applied
      split
      · exact runsAfterCreation_of_onlyLooks (IngressUnit.asksOnly_awaitReachable ⟨u⟩)
      · trivial

end Asking

/-! ### Histories of several installations -/

section Histories

variable {ι : Type}

/-- This installation has created the namespace. -/
def Claimed (who : ι) (id : String) (history : SignedHistory ι) : Prop :=
  (creation id).signed (who, id) ∈ history

/-- Who has run a command, and for which unit. -/
def actor? : Occurrence (SignedAction ι) SignedAction.Answer → Option (ι × String)
  | .asked (signature, .run _) _ => some signature
  | _ => none

/-- This installation has run a command for the unit. -/
def ActsOn (who : ι) (id : String) (history : SignedHistory ι) : Prop :=
  (who, id) ∈ history.filterMap actor?

instance [DecidableEq ι] (who : ι) (id : String) (history : SignedHistory ι) :
    Decidable (ActsOn who id history) :=
  inferInstanceAs (Decidable (_ ∈ _))

/-- The request is one of an installation for a component: at most it creates the namespace. -/
def SignedAction.AsInstalling (who : ι) (request : SignedAction ι) : Prop :=
  request.1.1 = who ∧ request.2.CreatesOnly request.1.2

variable {who other : ι} {id : String} {history : SignedHistory ι}
  {o : Occurrence (SignedAction ι) SignedAction.Answer}

theorem claimed_append :
    Claimed who id (history ++ [o]) ↔ Claimed who id history ∨ o = (creation id).signed (who, id) := by
  rw [Claimed, List.mem_append, List.mem_singleton, eq_comm]
  rfl

/-- Only a command of its own makes an installation act on a unit. -/
theorem actsOn_append (h : ActsOn who id (history ++ [o])) :
    ActsOn who id history ∨ ∃ (i : Invocation) (answer : Except DeployError CommandOutput),
      o = .asked ((who, id), .run i) answer := by
  rw [ActsOn, List.filterMap_append, List.mem_append] at h
  apply h.imp_right
  intro hmem
  obtain ⟨o', ho', hactor⟩ := List.mem_filterMap.mp hmem
  obtain rfl := List.mem_singleton.mp ho'
  cases o' with
  | slept time => cases hactor
  | asked request answer =>
    obtain ⟨signature, a⟩ := request
    cases a with
    | run i =>
      cases hactor
      exact ⟨i, answer, rfl⟩
    | _ => cases hactor

end Histories

/-! ### One installation -/

section One

variable {ι : Type}

/-- What is left of an installation.  What it asks is its own, and of a unit whose namespace it has
not created it has run no command, nor will it before it has. -/
structure Bound (who : ι) (history : SignedHistory ι) (s : SignedEngine ι Unit) : Prop where
  asks : AsksOnly (SignedAction.AsInstalling who) s
  acts : ∀ id, Claimed who id history ∨
    ¬ ActsOn who id history ∧
      AsksUntil (· = (creation id).signed (who, id)) (fun request => ∀ i, request ≠ ((who, id), .run i))
        s

variable {who other : ι} {history : SignedHistory ι} {s rest : SignedEngine ι Unit}
  {o : Occurrence (SignedAction ι) SignedAction.Answer}

/-- A step of its own. -/
theorem Bound.moves (h : Bound who history s) (hmoves : Moves s o rest) :
    Bound who (history ++ [o]) rest := by
  refine ⟨(h.asks.moves hmoves).1, fun id => ?_⟩
  rcases h.acts id with hclaimed | ⟨hidle, hshut⟩
  · exact Or.inl (claimed_append.mpr (Or.inl hclaimed))
  · obtain ⟨hopened | hshut', hasked⟩ := hshut.moves hmoves
    · exact Or.inl (claimed_append.mpr (Or.inr hopened))
    · refine Or.inr ⟨fun hacts => ?_, hshut'⟩
      rcases actsOn_append hacts with hacts | ⟨i, answer, rfl⟩
      · exact hidle hacts
      · exact hasked i rfl

/-- A step of another one. -/
theorem Bound.spectates (h : Bound who history s)
    (hother : o.Within fun request => request.1.1 ≠ who) :
    Bound who (history ++ [o]) s := by
  refine ⟨h.asks, fun id => ?_⟩
  rcases h.acts id with hclaimed | ⟨hidle, hshut⟩
  · exact Or.inl (claimed_append.mpr (Or.inl hclaimed))
  · refine Or.inr ⟨fun hacts => ?_, hshut⟩
    rcases actsOn_append hacts with hacts | ⟨i, answer, rfl⟩
    · exact hidle hacts
    · exact hother rfl

/-- What a whole installation asks. -/
theorem bound_installAllAs (who : ι) (settings : Settings) {budgets : Budgets}
    {specs : List UnitSpec} {components : List Component}
    (h : Component.Realize budgets specs components) :
    Bound who [] (Installer.installAllAs who settings components) := by
  have hidle (id : String) : ¬ ActsOn who id [] := List.not_mem_nil
  induction h with
  | nil => exact ⟨trivial, fun id => Or.inr ⟨hidle id, trivial⟩⟩
  | @cons spec c specs components hc hrest ih =>
    constructor
    · apply AsksOnly.andThen _ fun _ => ih.asks
      apply (asksOnly_signed (Component.asksOnly_installOne hc settings) (who, c.id)).mono
      rintro ⟨signature, a⟩ ⟨rfl, ha⟩
      exact ⟨rfl, ha⟩
    · intro id
      refine Or.inr ⟨hidle id, AsksUntil.andThen ?_ fun _ => ?_⟩
      · by_cases hid : c.id = id
        · subst hid
          exact ((Component.runsAfterCreation_installOne hc settings).signed (who, c.id)).mono
            fun _ ha i heq => ha.2 i (congrArg Prod.snd heq)
        · -- the other components sign for themselves
          apply AsksUntil.of_asksOnly
          apply (asksOnly_signed (asksOnly_true _) (who, c.id)).mono
          rintro request ⟨hsignature, -⟩ i rfl
          exact hid (congrArg Prod.snd hsignature).symm
      · rcases ih.acts id with hclaimed | ⟨-, hshut⟩
        · cases hclaimed
        · exact hshut

end One

/-! ### All of them -/

section All

variable {ι σ : Type} {world : World Action Action.Answer σ} {cluster : σ → Fake}
  {before : List String}

/-- Since `before`, every namespace was created once, by one installation, and all that were created
stand. -/
structure Sole (cluster : σ → Fake) (before : List String) (state : σ × SignedHistory ι) : Prop where
  sound : (cluster state.1).lifecycle.Sound
  created : ∃ names, (cluster state.1).created = before ++ names ∧ names.Nodup ∧
    ∀ name ∈ names, (cluster state.1).lifecycle.Stands name
  stands : ∀ who id, Claimed who id state.2 → (cluster state.1).lifecycle.Stands id
  alone : ∀ id who other, Claimed who id state.2 → Claimed other id state.2 → who = other

variable {state : σ × SignedHistory ι} {after : σ}
  {o : Occurrence (SignedAction ι) SignedAction.Answer}

/-- Whatever creates nothing and takes away nothing that stands keeps it. -/
theorem Sole.endures (h : Sole cluster before state)
    (hendures : (cluster state.1).lifecycle.Endures (cluster after).lifecycle)
    (ho : ∀ who id, o ≠ (creation id).signed (who, id)) :
    Sole cluster before (after, state.2 ++ [o]) := by
  have hclaimed {who : ι} {id : String} (hnew : Claimed who id (state.2 ++ [o])) :
      Claimed who id state.2 :=
    (claimed_append.mp hnew).resolve_right (ho who id)
  obtain ⟨names, hcreated, hnodup, hstands⟩ := h.created
  refine ⟨hendures.sound h.sound, ⟨names, ?_, hnodup, ?_⟩, ?_, ?_⟩
  · exact hendures.created.trans hcreated
  · exact fun name hname => hendures.stands name (hstands name hname)
  · exact fun who id hnew => hendures.stands id (h.stands who id (hclaimed hnew))
  · exact fun id who other hnew hnew' => h.alone id who other (hclaimed hnew) (hclaimed hnew')

/-- A namespace that was missing is created: nobody has created it before. -/
theorem Sole.creates (h : Sole cluster before state) (who : ι) {id : String} {labels : Labels}
    (hfree : Table.has (cluster state.1).namespaces id = false)
    (hafter : (cluster after).lifecycle = (cluster state.1).lifecycle.withNew id labels) :
    Sole cluster before (after, state.2 ++ [(creation id).signed (who, id)]) := by
  have hfresh : ¬ (cluster state.1).lifecycle.Stands id := fun hstands =>
    Bool.eq_false_iff.mp hfree hstands.1
  have hclaimed {who' : ι} {id' : String}
      (hnew : Claimed who' id' (state.2 ++ [(creation id).signed (who, id)])) :
      Claimed who' id' state.2 ∨ who' = who ∧ id' = id := by
    apply (claimed_append.mp hnew).imp_right
    intro heq
    cases heq
    exact ⟨rfl, rfl⟩
  obtain ⟨names, hcreated, hnodup, hstands⟩ := h.created
  refine ⟨?_, ⟨names ++ [id], ?_, ?_, ?_⟩, ?_, ?_⟩
  · rw [hafter]
    exact Lifecycle.sound_withNew h.sound labels
  · have hlog : (cluster after).created = (cluster state.1).created ++ [id] :=
      congrArg Lifecycle.created hafter
    rw [hlog, hcreated, List.append_assoc]
  · rw [← List.concat_eq_append]
    exact hnodup.concat fun hmem => hfresh (hstands id hmem)
  · intro name hname
    rw [hafter]
    rcases List.mem_append.mp hname with hname | hname
    · exact (hstands name hname).withNew labels
    · rw [List.mem_singleton.mp hname]
      exact Lifecycle.stands_withNew_self h.sound hfree labels
  · intro who' id' hnew
    rw [hafter]
    rcases hclaimed hnew with hold | ⟨rfl, rfl⟩
    · exact (h.stands who' id' hold).withNew labels
    · exact Lifecycle.stands_withNew_self h.sound hfree labels
  · intro id' who' other hnew hnew'
    -- a claim from before would have left the namespace standing
    rcases hclaimed hnew with hold | ⟨rfl, rfl⟩
    · rcases hclaimed hnew' with hold' | ⟨rfl, rfl⟩
      · exact h.alone id' who' other hold hold'
      · exact absurd (h.stands who' id' hold) hfresh
    · rcases hclaimed hnew' with hold' | ⟨rfl, -⟩
      · exact absurd (h.stands other id' hold') hfresh
      · rfl

/-- Whatever an installation asks keeps it. -/
theorem Cluster.Hosts.sole_plays (hworld : Hosts world cluster) (h : Sole cluster before state)
    {who : ι} (hasked : o.Within (SignedAction.AsInstalling who))
    (hplays : (World.unsigning world).Plays o state.1 after) :
    Sole cluster before (after, state.2 ++ [o]) := by
  cases o with
  | slept time =>
    subst hplays
    exact h.endures (.of_eq (hworld.sleeps time state.1)) nofun
  | asked request answer =>
    obtain ⟨⟨signer, id⟩, a⟩ := request
    have hcreates : a.CreatesOnly id := hasked.2
    rcases hcreates with hlooks | rfl
    · have hafter : (world.answer a state.1).2 = after := congrArg Prod.snd hplays
      subst hafter
      apply h.endures (hworld.endures_answer hlooks state.1)
      intro who' id' heq
      cases heq
      rcases hlooks with hlooks | ⟨i, hi⟩
      · exact hlooks
      · cases hi
    · have hafter : (world.answer (.call (.createNamespace id ownerLabels)) state.1).2 = after :=
        congrArg Prod.snd hplays
      have hanswer : (world.answer (.call (.createNamespace id ownerLabels)) state.1).1 = answer :=
        congrArg Prod.fst hplays
      subst hafter
      rw [hworld.answers] at hanswer
      rcases (cluster state.1).create_cases id ownerLabels with
        ⟨hfree, hok, hnew⟩ | ⟨⟨e, herror⟩, hsame⟩
      · rw [hok] at hanswer
        subst hanswer
        apply h.creates signer hfree
        rw [hworld.holds]
        exact hnew
      · rw [herror] at hanswer
        subst hanswer
        apply h.endures (.of_eq (by rw [hworld.holds]; exact hsame))
        intro who' id' heq
        cases heq

/-- What holds of installations that take turns. -/
structure Apart (cluster : σ → Fake) (before : List String)
    (runs : (ι → SignedEngine ι Unit) × σ × SignedHistory ι) : Prop where
  sole : Sole cluster before runs.2
  bound : ∀ who, Bound who runs.2.2 (runs.1 who)

theorem Cluster.Hosts.apart_turn [DecidableEq ι] (hworld : Hosts world cluster) (who : ι)
    {runs : (ι → SignedEngine ι Unit) × σ × SignedHistory ι} (h : Apart cluster before runs) :
    Apart cluster before (turn (World.unsigning world).recording who runs) := by
  rcases turn_recording (World.unsigning world) who runs with
    hturn | ⟨o, rest, after, hmoves, hplays, hturn⟩ <;> rw [hturn]
  · exact h
  · have hasked := ((h.bound who).asks.moves hmoves).2
    refine ⟨hworld.sole_plays h.sole hasked hplays, fun other => ?_⟩
    -- one of them moves, the others look on
    by_cases hother : other = who
    · subst hother
      show Bound other _ (Function.update runs.1 other rest other)
      rw [Function.update_self]
      exact (h.bound other).moves hmoves
    · show Bound other _ (Function.update runs.1 who rest other)
      rw [Function.update_of_ne hother]
      apply (h.bound other).spectates
      cases o with
      | slept time => trivial
      | asked request answer =>
        show request.1.1 ≠ other
        rw [hasked.1]
        exact Ne.symm hother

end All

namespace Installer

variable {ι : Type} [DecidableEq ι]

/-- However several installations take turns, no two of them run commands for the same unit, and no
namespace is created more than once.  Namespaces may be going away, if only such as are there. -/
theorem interleave_installs {catalogs : ι → Catalog} {installers : ι → Installer}
    (hinstallers : ∀ who, ofCatalog (catalogs who) = .ok (installers who))
    (settings : ι → Settings) {σ : Type} {world : World Action Action.Answer σ}
    {cluster : σ → Fake} (hworld : Hosts world cluster) {start : σ}
    (hstart : (cluster start).lifecycle.Sound) (schedule : List ι)
    {runs : ι → SignedEngine ι Unit} {final : σ} {history : SignedHistory ι}
    (hrun : interleave (World.unsigning world).recording schedule
      (fun who => { installers who with settings := settings who }.installAs who, start, []) =
        (runs, final, history)) :
    (∀ id who other, ActsOn who id history → ActsOn other id history → who = other) ∧
      ∃ names, (cluster final).created = (cluster start).created ++ names ∧ names.Nodup := by
  have hbefore : Apart cluster (cluster start).created
      (fun who => { installers who with settings := settings who }.installAs who, start, []) := by
    refine ⟨⟨hstart, ⟨[], ?_, List.nodup_nil, nofun⟩, nofun, nofun⟩, fun who => ?_⟩
    · exact (List.append_nil _).symm
    · have hcomponents := realize_of_ofCatalog (hinstallers who)
      exact bound_installAllAs who (settings who) hcomponents
  have hafter := interleave_keeps (fun who _ => hworld.apart_turn who) schedule hbefore
  rw [hrun] at hafter
  obtain ⟨names, hcreated, hnodup, -⟩ := hafter.sole.created
  refine ⟨fun id who other hacts hacts' => ?_, names, hcreated, hnodup⟩
  -- whoever acts on a unit has created its namespace
  have hclaimed {who : ι} (hacts : ActsOn who id history) : Claimed who id history :=
    ((hafter.bound who).acts id).resolve_right fun hidle => hidle.1 hacts
  exact hafter.sole.alone id who other (hclaimed hacts) (hclaimed hacts')

/-- Two installations of one chart: both see that the namespace is missing, and one creates it. -/
theorem interleave_installs_web :
    ∃ i runs final history,
      ofCatalog { units := [{ id := "web", chart := some "web" }] } = .ok i ∧
      interleave (World.unsigning (Fake.worldWith fun _ => .ok "")).recording
        ([true, false, true, false, false, true] ++ List.replicate 4 false)
        (fun who => i.installAs who, {}, []) = (runs, final, history) ∧
      ActsOn false "web" history ∧ ¬ ActsOn true "web" history ∧ final.created = ["web"] := by
  have hcheck : Catalog.check { units := [{ id := "web", chart := some "web" }] } = .ok () := rfl
  obtain ⟨i, hi⟩ := exists_ofCatalog hcheck
  let world := Fake.worldWith fun _ => .ok ""
  have hworld : Hosts world id := Fake.hosts_worldWith _
  have hsound : (id ({} : Fake)).lifecycle.Sound := Lifecycle.sound_of_terminating_eq_nil rfl
  let outcome := interleave (World.unsigning world).recording
    ([true, false, true, false, false, true] ++ List.replicate 4 false)
    (fun who => i.installAs who, {}, [])
  have hrun : outcome = (outcome.1, outcome.2.1, outcome.2.2) := rfl
  have hacts : ActsOn false "web" outcome.2.2 := by
    cases hi
    decide +kernel
  have hcreated : outcome.2.1.created = ["web"] := by
    cases hi
    decide +kernel
  obtain ⟨halone, -⟩ := interleave_installs (fun _ => hi) (fun _ => i.settings) hworld hsound _ hrun
  refine ⟨i, _, _, _, hi, hrun, hacts, fun hacts' => ?_, hcreated⟩
  cases halone "web" false true hacts hacts'

end Installer

end Groundwork
