import Groundwork.Proofs.Cluster.Objects
import Groundwork.Proofs.Cluster.Ownership
import Groundwork.Proofs.Component.Applying
import Groundwork.Proofs.Script.Outcome

/-!
# Units that are left out

On a cluster of which everything can be seen it is known beforehand what becomes of a unit.  It is
`LeftOut` if the cluster provides it or its setting skips it; then installing and upgrading only look
(`Isolates.returns_applyOne_leftOut`).  An installation that ends well has left the unit out or has
created its namespace (`Isolates.upholds_installOne`), and one that is not left out and has its
namespace already is refused (`Isolates.fails_installOne_owned`).
-/

namespace Groundwork

open Script Cluster

/-! ### What is left out -/

namespace IngressUnit

/-- The first of several places where there is a service. -/
def foundIn (services : Table (String × String) Service) :
    List (String × String) → Option String
  | [] => none
  | (namespaceName, service) :: rest =>
    if Table.has services (namespaceName, service) then
      some ("found existing ingress service " ++ namespaceName ++ "/" ++ service)
    else foundIn services rest

/-- Why the cluster does without the unit: it has a controller that is not the unit's own. -/
def providedOn (u : IngressUnit) (l : Lifecycle) (o : Objects) : Option String :=
  if NamespaceState.ofFound (Table.get? l.namespaces u.chart.spec.id) = .owned then none
  else foundIn o.services u.places

end IngressUnit

namespace ChartUnit

/-- Why the cluster does without the unit, which only an ingress controller is asked for. -/
def providedOn (u : ChartUnit) (l : Lifecycle) (o : Objects) : Option String :=
  if u.spec.kind = .ingress then IngressUnit.providedOn ⟨u⟩ l o else none

/-- The unit is left out: the cluster provides it, or its setting says so. -/
def LeftOut (u : ChartUnit) (settings : Settings) (l : Lifecycle) (o : Objects) : Prop :=
  (∃ reason, u.providedOn l o = some reason) ∨
    ∃ reason, u.skipReason (settings.viewFor u.spec.id) = .ok (some reason)

/-- The unit is not left out, and its namespace is free. -/
structure Joins (u : ChartUnit) (settings : Settings) (l : Lifecycle) (o : Objects) : Prop where
  provided : u.providedOn l o = none
  active : u.skipReason (settings.viewFor u.spec.id) = .ok none
  free : Table.has l.namespaces u.spec.id = false

variable {u : ChartUnit} {settings : Settings} {l l' : Lifecycle} {o : Objects}

/-- Whether the cluster provides a unit depends on namespaces only through the unit's own. -/
theorem providedOn_congr
    (h : Table.get? l.namespaces u.spec.id = Table.get? l'.namespaces u.spec.id) :
    u.providedOn l o = u.providedOn l' o := by
  simp only [providedOn, IngressUnit.providedOn, h]

theorem LeftOut.congr (hout : u.LeftOut settings l o)
    (h : Table.get? l.namespaces u.spec.id = Table.get? l'.namespaces u.spec.id) :
    u.LeftOut settings l' o := by
  unfold LeftOut at hout ⊢
  rwa [← providedOn_congr h]

/-- A unit whose namespace is the installer's is not provided by anything else. -/
theorem providedOn_of_owned
    (h : NamespaceState.ofFound (Table.get? l.namespaces u.spec.id) = .owned) :
    u.providedOn l o = none := by
  unfold providedOn
  split
  · exact if_pos h
  · rfl

end ChartUnit

/-! ### Looking -/

namespace Cluster.Isolates

variable {σ α : Type} {world : World Action Action.Answer σ} {cluster : σ → Fake} {patience : Nat}
  {l : Lifecycle} {o : Objects} {state : σ} {J : σ → Prop}

/-- A script that only looks keeps what can be seen, and whatever looking keeps. -/
theorem returns_looking (h : Isolates world cluster) (hl : l.terminating = [])
    (hJ : KeptByLooking world J) {s : Engine α} (hs : AsksOnly Action.OnlyLooks s) {a : α}
    {post : σ → Prop} (hreturns : Returns world patience s state a post)
    (hstate : (cluster state).Shows l o) (hj : J state) :
    Returns world patience s state a fun state => (cluster state).Shows l o ∧ J state := by
  have hkept := (h.keptByLooking (o := o) hl).and hJ
  exact (hreturns.keeping hs hkept.answer hkept.sleep ⟨hstate, hj⟩).weaken fun _ hafter => hafter.2

theorem returns_say (h : Isolates world cluster) (hl : l.terminating = [])
    (hJ : KeptByLooking world J) (level : Level) (text : String)
    (hstate : (cluster state).Shows l o) (hj : J state) :
    Returns world patience (Engine.say level text) state () fun state =>
      (cluster state).Shows l o ∧ J state :=
  h.returns_looking hl hJ (Engine.asksOnly_say _ _) (h.toHosts.returns_say rfl) hstate hj

theorem returns_look (h : Isolates world cluster) (hl : l.terminating = [])
    (hJ : KeptByLooking world J) (c : Call) (hc : (Action.call c).OnlyLooks) {found : c.Found}
    (hanswer : ((cluster state).answer c).1 = .ok found) (hstate : (cluster state).Shows l o)
    (hj : J state) :
    Returns world patience (Engine.call c) state found fun state =>
      (cluster state).Shows l o ∧ J state :=
  h.returns_looking hl hJ (Engine.asksOnly_call hc) (h.returns_call hanswer) hstate hj

theorem returns_readState (h : Isolates world cluster) (hl : l.terminating = [])
    (hJ : KeptByLooking world J) (name : String) (hstate : (cluster state).Shows l o)
    (hj : J state) :
    Returns world patience (NamespaceState.read name) state
      (.ofFound (Table.get? l.namespaces name)) fun state => (cluster state).Shows l o ∧ J state :=
  h.returns_looking hl hJ (asksOnly_readState trivial)
    (h.toHosts.returns_readState hl hstate.lifecycle) hstate hj

/-- Looking for a service finds it where it is. -/
theorem returns_findService (h : Isolates world cluster) (hl : l.terminating = [])
    (hJ : KeptByLooking world J) (places : List (String × String))
    (hstate : (cluster state).Shows l o) (hj : J state) :
    Returns world patience (IngressUnit.findService places) state
      (IngressUnit.foundIn o.services places) fun state =>
        (cluster state).Shows l o ∧ J state := by
  induction places generalizing state with
  | nil => exact Returns.done ⟨hstate, hj⟩
  | cons place rest ih =>
    obtain ⟨namespaceName, service⟩ := place
    have hanswer : ((cluster state).answer (.getService namespaceName service)).1 =
        .ok (Table.get? o.services (namespaceName, service)) := by
      rw [← hstate.objects]
      rfl
    apply (h.returns_look hl hJ (.getService namespaceName service) trivial hanswer hstate hj).andThen
    rintro after ⟨hstate, hj⟩
    rw [IngressUnit.foundIn, Table.has_eq_isSome_get?]
    cases Table.get? o.services (namespaceName, service) with
    | none => exact ih hstate hj
    | some found => exact Returns.done ⟨hstate, hj⟩

theorem returns_provided (h : Isolates world cluster) (hl : l.terminating = [])
    (hJ : KeptByLooking world J) (u : ChartUnit) (hstate : (cluster state).Shows l o)
    (hj : J state) :
    Returns world patience u.component.provided state (u.providedOn l o) fun state =>
      (cluster state).Shows l o ∧ J state := by
  unfold ChartUnit.component ChartUnit.providedOn
  split
  · apply (h.returns_readState hl hJ u.spec.id hstate hj).andThen
    rintro after ⟨hstate, hj⟩
    unfold IngressUnit.providedOn
    cases hfound : NamespaceState.ofFound (Table.get? l.namespaces u.spec.id) with
    | owned => exact Returns.done ⟨hstate, hj⟩
    | absent => exact h.returns_findService hl hJ _ hstate hj
    | foreign => exact h.returns_findService hl hJ _ hstate hj
  · exact Returns.done ⟨hstate, hj⟩

theorem returns_exposure (h : Isolates world cluster) (hl : l.terminating = [])
    (hJ : KeptByLooking world J) (hstate : (cluster state).Shows l o) (hj : J state) :
    Returns world patience IngressUnit.exposure state (IngressUnit.exposureOn o.nodes o.version)
      fun state => (cluster state).Shows l o ∧ J state := by
  have hnodes : ((cluster state).answer .listNodes).1 = .ok o.nodes := by
    rw [← hstate.objects]
    rfl
  have hfacts : Returns world patience readFacts state (Platform.facts o.nodes o.version)
      fun state => (cluster state).Shows l o ∧ J state := by
    apply (h.returns_look hl hJ .listNodes trivial hnodes hstate hj).andThen
    rintro after ⟨hstate, hj⟩
    have hversion : ((cluster after).answer .serverVersion).1 = .ok o.version := by
      rw [← hstate.objects]
      rfl
    apply (h.returns_look hl hJ .serverVersion trivial hversion hstate hj).andThen
    exact fun _ hafter => Returns.done hafter
  apply hfacts.andThen
  intro after hafter
  unfold IngressUnit.exposureOn
  split
  · exact Returns.done hafter
  · exact Returns.done hafter

/-! ### Leaving out -/

theorem returns_skipped (h : Isolates world cluster) (hl : l.terminating = [])
    (hJ : KeptByLooking world J) (u : ChartUnit) (verb : Verb) {settings : Settings}
    (extra : List (String × String)) {reason : String}
    (hskipped : u.skipReason settings = .ok (some reason)) (hstate : (cluster state).Shows l o)
    (hj : J state) :
    Returns world patience (u.applyWith verb settings extra) state false fun state =>
      (cluster state).Shows l o ∧ J state := by
  rw [u.applyWith_of_skipped hskipped]
  apply (h.returns_say hl hJ _ _ hstate hj).andThen
  exact fun _ hafter => Returns.done hafter

/-- A unit that is left out is only looked at. -/
theorem returns_applyOne_leftOut (h : Isolates world cluster) (hl : l.terminating = [])
    (hJ : KeptByLooking world J) (u : ChartUnit) (verb : Verb) {settings : Settings}
    (hout : u.LeftOut settings l o) (hstate : (cluster state).Shows l o) (hj : J state) :
    Returns world patience
      (Installer.applyOne (fun c => c.applyBy verb) settings u.component) state () fun state =>
        (cluster state).Shows l o ∧ J state := by
  apply Returns.mapError
  apply (h.returns_provided hl hJ u hstate hj).andThen
  rintro after ⟨hstate, hj⟩
  rcases hprovided : u.providedOn l o with _ | reason
  · -- the cluster does not provide the unit, so its setting skips it
    obtain ⟨reason, hskipped⟩ : ∃ reason, u.skipReason (settings.viewFor u.spec.id) =
        .ok (some reason) := by
      rcases hout with ⟨reason, hreason⟩ | hskipped
      · rw [hprovided] at hreason
        cases hreason
      · exact hskipped
    simp only [u.id_component]
    rw [u.applyBy_component]
    split
    · apply (h.returns_exposure hl hJ hstate hj).andThen
      rintro after ⟨hstate, hj⟩
      apply (h.returns_skipped hl hJ u verb _ hskipped hstate hj).andThen
      exact fun _ hafter => Returns.done hafter
    · apply (h.returns_skipped hl hJ u verb _ hskipped hstate hj).andThen
      exact fun _ hafter => Returns.done hafter
  · exact h.returns_say hl hJ _ _ hstate hj

/-! ### Installing -/

/-- Work on a cluster keeps what can be seen of it. -/
theorem upholds_working (h : Isolates world cluster) (hl : l.terminating = []) {s : Engine α}
    (hs : AsksOnly Action.LooksOrRuns s) :
    Upholds world patience (fun _ => True) (fun state => (cluster state).Shows l o) s
      fun _ state => (cluster state).Shows l o := by
  apply hs.upholds
  · exact fun _ ha _ _ hstate => ⟨trivial, h.shows_answer hl ha hstate⟩
  · exact fun _ _ _ hstate => ⟨trivial, h.shows_sleep _ hstate⟩

/-- A namespace that is claimed for an installation was free, and is there now. -/
theorem upholds_claim_install (h : Isolates world cluster) (hl : l.terminating = [])
    (u : ChartUnit) :
    Upholds world patience (fun _ => True) (fun state => (cluster state).Shows l o)
      (u.claim .install) fun _ state => Table.has l.namespaces u.spec.id = false ∧
        (cluster state).Shows (l.withNew u.spec.id ownerLabels) o := by
  have hguard : Upholds world patience (fun _ => True) (fun state => (cluster state).Shows l o)
      (guardInstall u.spec.id) fun _ state => (cluster state).Shows l o ∧
        Table.has l.namespaces u.spec.id = false := by
    apply (Returns.upholds fun _ hstate =>
      h.returns_readState hl (.fact world True) u.spec.id hstate trivial).andThen
    intro found
    cases found with
    | absent =>
      apply Upholds.done
      rintro state - ⟨hfound, hstate, -⟩
      have hnone := NamespaceState.ofFound_eq_absent_iff.mp hfound.symm
      exact ⟨hstate, Table.get?_eq_none_iff.mp hnone⟩
    | owned => exact Upholds.fail
    | foreign => exact Upholds.fail
  apply hguard.andThen
  intro _
  apply (Returns.upholds fun _ hstate =>
    h.returns_say hl (.fact world _) _ _ hstate.1 hstate.2).andThen
  intro _
  apply Upholds.ask fun _ state => Table.has l.namespaces u.spec.id = false ∧
    (cluster state).Shows (l.withNew u.spec.id ownerLabels) o
  · rintro state - ⟨-, hstate, hfree⟩
    refine ⟨trivial, hfree, ?_, (h.objects_answer _ state).trans hstate.objects⟩
    rw [h.holds]
    exact Fake.answer_createNamespace_of_not_has hstate.lifecycle hfree
  · exact fun answer => Upholds.ofExcept fun _ _ _ _ hafter => hafter

/-- A unit that is installed to the end was skipped, or its namespace was free and is there now. -/
theorem upholds_applyWith_install (h : Isolates world cluster) (hl : l.terminating = [])
    (u : ChartUnit) (settings : Settings) (extra : List (String × String)) :
    Upholds world patience (fun _ => True) (fun state => (cluster state).Shows l o)
      (u.applyWith .install settings extra) fun _ state =>
        (∃ reason, u.skipReason settings = .ok (some reason)) ∧ (cluster state).Shows l o ∨
          u.skipReason settings = .ok none ∧ Table.has l.namespaces u.spec.id = false ∧
            (cluster state).Shows (l.withNew u.spec.id ownerLabels) o := by
  rcases hreason : u.skipReason settings with fault | _ | reason
  · rw [u.applyWith_of_error hreason]
    exact Upholds.fail
  · rw [u.applyWith_of_active hreason]
    apply (h.upholds_claim_install hl u).andThen
    intro _
    apply Upholds.knowing fun _ hclaimed => hclaimed.1
    intro hfree
    have hworked : Upholds world patience (fun _ => True)
        (fun state => (cluster state).Shows (l.withNew u.spec.id ownerLabels) o)
        ((u.apply .install settings extra).andThen fun _ =>
          (Engine.say .success (u.doneText .install)).andThen fun _ => .done true)
        fun _ state => (cluster state).Shows (l.withNew u.spec.id ownerLabels) o := by
      apply h.upholds_working (l := l.withNew u.spec.id ownerLabels) hl
      apply (u.asksOnly_apply _ _ _).andThen
      intro _
      apply (Engine.looksOrRuns_of_onlyLooks (Engine.asksOnly_say _ _)).andThen
      intro _
      trivial
    apply hworked.weaken
    · exact fun _ _ hclaimed => hclaimed.2
    · exact fun _ _ _ hafter => Or.inr ⟨rfl, hfree, hafter⟩
  · apply (Returns.upholds fun _ hstate =>
      h.returns_skipped hl (.fact world True) u .install extra hreason hstate trivial).weaken
    · exact fun _ _ hstate => hstate
    · exact fun _ _ _ hafter => Or.inl ⟨⟨reason, rfl⟩, hafter.2.1⟩

/-- An installation that ends well has left the unit out, or it has created its namespace. -/
theorem upholds_installOne (h : Isolates world cluster) (hl : l.terminating = [])
    (u : ChartUnit) (settings : Settings) :
    Upholds world patience (fun _ => True) (fun state => (cluster state).Shows l o)
      (Installer.applyOne (fun c => c.applyBy .install) settings u.component) fun _ state =>
        u.LeftOut settings l o ∧ (cluster state).Shows l o ∨
          u.Joins settings l o ∧ (cluster state).Shows (l.withNew u.spec.id ownerLabels) o := by
  apply Upholds.mapError
  apply (Returns.upholds fun _ hstate =>
    h.returns_provided hl (.fact world True) u hstate trivial).andThen
  intro provided
  apply Upholds.knowing fun _ hprovided => hprovided.1
  rintro rfl
  rcases hprovided : u.providedOn l o with _ | reason
  · have happlied (extra : List (String × String)) :
        Upholds world patience (fun _ => True) (fun state => (cluster state).Shows l o)
          (u.applyWith .install (settings.viewFor u.spec.id) extra) fun _ state =>
            u.LeftOut settings l o ∧ (cluster state).Shows l o ∨
              u.Joins settings l o ∧ (cluster state).Shows (l.withNew u.spec.id ownerLabels) o := by
      apply (h.upholds_applyWith_install hl u _ extra).weaken fun _ _ hstate => hstate
      rintro _ state - (⟨hskipped, hstate⟩ | ⟨hactive, hfree, hstate⟩)
      · exact Or.inl ⟨Or.inr hskipped, hstate⟩
      · exact Or.inr ⟨⟨hprovided, hactive, hfree⟩, hstate⟩
    simp only [u.id_component]
    rw [u.applyBy_component]
    split
    · apply ((Returns.upholds fun _ hstate =>
        h.returns_exposure hl (.fact world True) hstate trivial).weaken
          (fun _ _ hstate => hstate.2.1) fun _ _ _ hafter => hafter.2.1).andThen
      rintro ⟨values, balanced⟩
      apply (happlied values).andThen
      intro applied
      have hkept : KeptByLooking world fun state =>
          u.LeftOut settings l o ∧ (cluster state).Shows l o ∨
            u.Joins settings l o ∧ (cluster state).Shows (l.withNew u.spec.id ownerLabels) o :=
        ((KeptByLooking.fact world _).and (h.keptByLooking hl)).or
          ((KeptByLooking.fact world _).and
            (h.keptByLooking (l := l.withNew u.spec.id ownerLabels) hl))
      split
      · exact hkept.upholds (IngressUnit.asksOnly_awaitReachable ⟨u⟩)
      · exact Upholds.done fun _ _ hafter => hafter
    · apply Upholds.weaken _ (fun _ _ hstate => hstate.2.1) fun _ _ _ hafter => hafter
      exact (happlied []).andThen fun _ => Upholds.done fun _ _ hafter => hafter
  · apply (Returns.upholds fun _ hstate =>
      h.returns_say hl (.fact world True) _ _ hstate trivial).weaken
    · exact fun _ _ hstate => hstate.2.1
    · exact fun _ _ _ hafter => Or.inl ⟨Or.inl ⟨reason, hprovided⟩, hafter.2.1⟩

/-- A unit that is not skipped and has its namespace already cannot be installed: it is only looked
at. -/
theorem fails_installOne_owned (h : Isolates world cluster) (hl : l.terminating = [])
    (hJ : KeptByLooking world J) (u : ChartUnit) {settings : Settings}
    (hactive : u.skipReason (settings.viewFor u.spec.id) = .ok none)
    (howned : NamespaceState.ofFound (Table.get? l.namespaces u.spec.id) = .owned)
    (hstate : (cluster state).Shows l o) (hj : J state) :
    Fails world patience (Installer.applyOne (fun c => c.applyBy .install) settings u.component)
      state (.inUnit u.spec.id (.namespacePresent u.spec.id)) fun state =>
        (cluster state).Shows l o ∧ J state := by
  have hclaim {state : σ} (hstate : (cluster state).Shows l o) (hj : J state)
      (extra : List (String × String)) :
      Fails world patience (u.applyWith .install (settings.viewFor u.spec.id) extra) state
        (.namespacePresent u.spec.id) fun state => (cluster state).Shows l o ∧ J state := by
    rw [u.applyWith_of_active hactive]
    apply Fails.andThen
    apply Fails.andThen
    apply (h.returns_readState hl hJ u.spec.id hstate hj).andThen_fails
    intro after hafter
    rw [howned]
    exact Fails.fail hafter
  rw [Installer.applyOne, u.id_component]
  apply Fails.mapError
  apply (h.returns_provided hl hJ u hstate hj).andThen_fails
  rintro after ⟨hstate, hj⟩
  rw [ChartUnit.providedOn_of_owned howned]
  dsimp only
  rw [u.applyBy_component]
  split
  · apply (h.returns_exposure hl hJ hstate hj).andThen_fails
    rintro after ⟨hstate, hj⟩
    exact (hclaim hstate hj _).andThen
  · exact (hclaim hstate hj _).andThen

/-- A namespace that is the installer's is claimed for an upgrade by looking at it. -/
theorem returns_claim_upgrade (h : Isolates world cluster) (hl : l.terminating = [])
    (hJ : KeptByLooking world J) (u : ChartUnit)
    (howned : NamespaceState.ofFound (Table.get? l.namespaces u.spec.id) = .owned)
    (hstate : (cluster state).Shows l o) (hj : J state) :
    Returns world patience (u.claim .upgrade) state () fun state =>
      (cluster state).Shows l o ∧ J state := by
  have hguard : Returns world patience (guardUpgrade u.spec.id) state () fun state =>
      (cluster state).Shows l o ∧ J state := by
    apply (h.returns_readState hl hJ u.spec.id hstate hj).andThen
    intro after hafter
    rw [howned]
    exact Returns.done hafter
  apply hguard.andThen
  rintro after ⟨hstate, hj⟩
  exact h.returns_say hl hJ _ _ hstate hj

end Cluster.Isolates

end Groundwork
