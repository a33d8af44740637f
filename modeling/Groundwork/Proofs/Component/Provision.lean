import Groundwork.Proofs.Cluster.Lifecycle
import Groundwork.Proofs.Cluster.Ownership
import Groundwork.Proofs.Component.Applying
import Groundwork.Proofs.Engine.Stages
import Groundwork.Proofs.Installer.Sequencing

/-!
# Controllers of others

The ingress component looks for a controller that is not its own.  Where the unit's namespace is the
installer's there is nothing to look for; elsewhere the watched services are looked up one after the
other, each of them first in the unit's namespace and then in that of the system.  `Sought` is the
look at places in turn: it ends with the first place where a service is found, with the first look
that fails, or after all of them.  In a cluster that `Shows` which services are there, it finds the
first of them (`Sought.eq_find?`).

A component that says why it can be left out is left out: until the next one is asked nothing
happens but the asking itself and a word to the user (`run_applyAll_provided`).

`left_out_iff_there` puts the two together for a unit that brings an ingress controller.
-/

namespace Groundwork

open Script Cluster

/-! ### Looking for a service -/

/-- The look at a place: what was answered when the service was looked up in the namespace. -/
def lookUp (place : String × String) (answer : Except DeployError (Option Service)) :
    Occurrence Action Action.Answer :=
  .asked (.call (.getService place.1 place.2)) answer

theorem lookUp_inj {place place' : String × String}
    {answer answer' : Except DeployError (Option Service)}
    (h : lookUp place answer = lookUp place' answer') : place = place' ∧ answer = answer' := by
  obtain ⟨namespaceName, service⟩ := place
  obtain ⟨namespaceName', service'⟩ := place'
  cases h
  exact ⟨rfl, rfl⟩

/-- The looks at places where nothing is found. -/
def missed (places : List (String × String)) : WorkHistory :=
  places.map fun place => lookUp place (.ok none)

theorem error_of_mem_missed_append {places : List (String × String)} {place last : String × String}
    {e : DeployError} {answer : Except DeployError (Option Service)}
    (h : lookUp place (.error e) ∈ missed places ++ [lookUp last answer]) : answer = .error e := by
  rcases List.mem_append.mp h with h | h
  · obtain ⟨other, -, hlook⟩ := List.mem_map.mp h
    cases (lookUp_inj hlook).2
  · exact (lookUp_inj (List.mem_singleton.mp h)).2.symm

section Asked

variable {P : Action → Prop} {place : String × String} {before later : List (String × String)}
  {answer : Except DeployError (Option Service)}

theorem askedOnly_missed (h : ∀ place ∈ before, P (.call (.getService place.1 place.2))) :
    AskedOnly P (missed before) := by
  intro a answer hmem
  obtain ⟨place, hplace, hlook⟩ := List.mem_map.mp hmem
  cases hlook
  exact h place hplace

theorem askedOnly_missed_append
    (h : ∀ other ∈ before ++ place :: later, P (.call (.getService other.1 other.2))) :
    AskedOnly P (missed before ++ [lookUp place answer]) := by
  apply (askedOnly_missed fun other hmem => h other (List.mem_append_left _ hmem)).append
  rintro a answer ⟨⟩
  exact h place (List.mem_append_right _ (List.mem_cons_self ..))

end Asked

/-- The reason for leaving a unit out: a service that is there. -/
def foundAt (place : String × String) : String :=
  "found existing ingress service " ++ place.1 ++ "/" ++ place.2

/-- What comes of looking at places in turn, and the looks that are taken. -/
inductive Sought (places : List (String × String)) :
    Except DeployError (Option String) → WorkHistory → Prop
  | nowhere : Sought places (.ok none) (missed places)
  | found (before : List (String × String)) {later : List (String × String)}
    {place : String × String} {service : Service}
    (hplaces : places = before ++ place :: later) :
    Sought places (.ok (some (foundAt place)))
      (missed before ++ [lookUp place (.ok (some service))])
  | unreadable (before : List (String × String)) {later : List (String × String)}
    {place : String × String} {e : DeployError}
    (hplaces : places = before ++ place :: later) :
    Sought places (.error e) (missed before ++ [lookUp place (.error e)])

namespace Sought

variable {place : String × String} {places : List (String × String)}
  {outcome : Except DeployError (Option String)} {history : WorkHistory}

/-- A place where nothing is found comes in front. -/
theorem cons (place : String × String) (h : Sought places outcome history) :
    Sought (place :: places) outcome (lookUp place (.ok none) :: history) := by
  cases h with
  | nowhere => exact .nowhere
  | found before hplaces =>
    rw [hplaces]
    exact .found (place :: _) rfl
  | unreadable before hplaces =>
    rw [hplaces]
    exact .unreadable (place :: _) rfl

/-- A look that fails is the last one, and its error is that of the whole. -/
theorem error_iff (h : Sought places outcome history) (e : DeployError) :
    outcome = .error e ↔ ∃ place, lookUp place (.error e) ∈ history := by
  cases h with
  | nowhere =>
    refine ⟨nofun, fun ⟨place, hmem⟩ => ?_⟩
    obtain ⟨other, -, hlook⟩ := List.mem_map.mp hmem
    cases (lookUp_inj hlook).2
  | found before hplaces =>
    refine ⟨nofun, fun ⟨place, hmem⟩ => ?_⟩
    cases error_of_mem_missed_append hmem
  | unreadable before hplaces =>
    constructor
    · rintro ⟨⟩
      exact ⟨_, List.mem_append_right _ (List.mem_singleton_self _)⟩
    · rintro ⟨place, hmem⟩
      cases error_of_mem_missed_append hmem
      rfl

/-- Only the places are looked at. -/
theorem askedOnly {P : Action → Prop} (h : Sought places outcome history)
    (hP : ∀ place ∈ places, P (.call (.getService place.1 place.2))) : AskedOnly P history := by
  cases h with
  | nowhere => exact askedOnly_missed hP
  | found before hplaces => exact askedOnly_missed_append (hplaces ▸ hP)
  | unreadable before hplaces => exact askedOnly_missed_append (hplaces ▸ hP)

end Sought

/-- Every look succeeds, and finds a service just where `there` says that there is one. -/
def Shows (there : String → String → Bool) (history : WorkHistory) : Prop :=
  ∀ place answer, lookUp place answer ∈ history →
    ∃ found : Option Service, answer = .ok found ∧ found.isSome = there place.1 place.2

namespace Sought

variable {there : String → String → Bool} {places : List (String × String)}
  {outcome : Except DeployError (Option String)} {history : WorkHistory}

theorem find?_of_shows_missed {before : List (String × String)} (h : Shows there (missed before)) :
    before.find? (fun place => there place.1 place.2) = none := by
  rw [List.find?_eq_none]
  intro place hplace hthere
  obtain ⟨found, hfound, hsome⟩ := h place (.ok none) (List.mem_map_of_mem hplace)
  cases hfound
  cases hsome.trans hthere

/-- If all looks succeed, they end with the first place where there is a service. -/
theorem eq_find? (h : Sought places outcome history) (hshows : Shows there history) :
    outcome = .ok ((places.find? fun place => there place.1 place.2).map foundAt) := by
  cases h with
  | nowhere =>
    rw [find?_of_shows_missed hshows]
    rfl
  | @found before later place service hplaces =>
    have hbefore : before.find? (fun place => there place.1 place.2) = none :=
      find?_of_shows_missed fun place answer hmem =>
        hshows place answer (List.mem_append_left _ hmem)
    obtain ⟨found, hfound, hsome⟩ :=
      hshows place (.ok (some service)) (List.mem_append_right _ (List.mem_singleton_self _))
    cases hfound
    have hthere : there place.1 place.2 = true := hsome.symm
    rw [hplaces, List.find?_append, hbefore, Option.none_or, List.find?_cons, hthere]
    rfl
  | @unreadable before later place e hplaces =>
    obtain ⟨found, hfound, -⟩ :=
      hshows place (.error e) (List.mem_append_right _ (List.mem_singleton_self _))
    cases hfound

end Sought

/-! ### The check -/

namespace IngressUnit

theorem finishes_findService (places : List (String × String)) :
    Finishes (findService places) (Sought places) := by
  induction places with
  | nil => exact Finishes.done .nowhere
  | cons place rest ih =>
    apply Finishes.ask
    rintro (e | _ | service)
    · exact Finishes.fail (.unreadable [] rfl)
    · exact ih.weaken fun outcome later => .cons place
    · exact Finishes.done (.found [] rfl)

variable {u : IngressUnit} {outcome : Except DeployError (Option String)} {history : WorkHistory}

/-- What comes of the check, and the looks that are taken. -/
inductive Scouted (u : IngressUnit) : Except DeployError (Option String) → WorkHistory → Prop
  | unreadable {e : DeployError} :
    Scouted u (.error e) [.asked (.call (.getNamespace u.chart.spec.id)) (.error e)]
  | owned {found : Option Namespace} (howned : NamespaceState.ofFound found = .owned) :
    Scouted u (.ok none) [sight u.chart.spec.id found]
  | sought {found : Option Namespace} {outcome : Except DeployError (Option String)}
    {later : WorkHistory} (hunowned : NamespaceState.ofFound found ≠ .owned)
    (hsought : Sought u.places outcome later) :
    Scouted u outcome (sight u.chart.spec.id found :: later)

theorem finishes_provided (u : IngressUnit) : Finishes u.provided u.Scouted := by
  apply (NamespaceState.finishes_read u.chart.spec.id).andThen
  · rintro state _ ⟨e | found, hstate, rfl⟩
    · cases hstate
    · have hfound : NamespaceState.ofFound found = state := (Except.ok.inj hstate).symm
      have hsought (hunowned : state ≠ .owned) :
          Finishes (findService u.places) fun outcome later =>
            u.Scouted outcome ([sight u.chart.spec.id found] ++ later) :=
        (finishes_findService u.places).weaken fun _ _ => .sought (hfound ▸ hunowned)
      cases state with
      | owned => exact Finishes.done (.owned hfound)
      | absent => exact hsought nofun
      | foreign => exact hsought nofun
  · rintro e _ ⟨e' | found, herror, rfl⟩
    · cases herror
      exact .unreadable
    · cases herror

/-- The action looks at the unit's namespace, or for a watched service in that namespace or in the
system's. -/
def Scouts (u : IngressUnit) (a : Action) : Prop :=
  a = .call (.getNamespace u.chart.spec.id) ∨
    ∃ service ∈ u.watched, a = .call (.getService u.chart.spec.id service) ∨
      a = .call (.getService systemNamespace service)

theorem mem_places_iff {place : String × String} :
    place ∈ u.places ↔
      place.2 ∈ u.watched ∧ (place.1 = u.chart.spec.id ∨ place.1 = systemNamespace) := by
  obtain ⟨namespaceName, service⟩ := place
  simp only [places, List.mem_flatMap, List.mem_cons, List.not_mem_nil, or_false, Prod.mk.injEq]
  constructor
  · rintro ⟨other, hwatched, ⟨rfl, rfl⟩ | ⟨rfl, rfl⟩⟩
    · exact ⟨hwatched, Or.inl rfl⟩
    · exact ⟨hwatched, Or.inr rfl⟩
  · rintro ⟨hwatched, rfl | rfl⟩
    · exact ⟨service, hwatched, Or.inl ⟨rfl, rfl⟩⟩
    · exact ⟨service, hwatched, Or.inr ⟨rfl, rfl⟩⟩

theorem scouts_getService {place : String × String} (h : place ∈ u.places) :
    u.Scouts (.call (.getService place.1 place.2)) := by
  obtain ⟨hwatched, hid | hsystem⟩ := mem_places_iff.mp h
  · exact Or.inr ⟨place.2, hwatched, Or.inl (by rw [hid])⟩
  · exact Or.inr ⟨place.2, hwatched, Or.inr (by rw [hsystem])⟩

theorem Scouted.askedOnly (h : u.Scouted outcome history) : AskedOnly u.Scouts history := by
  have hread (read : Except DeployError (Option Namespace)) {later : WorkHistory}
      (hlater : AskedOnly u.Scouts later) :
      AskedOnly u.Scouts (.asked (.call (.getNamespace u.chart.spec.id)) read :: later) := by
    intro a answer hmem
    rcases List.mem_cons.mp hmem with hmem | hmem
    · cases hmem
      exact Or.inl rfl
    · exact hlater a answer hmem
  cases h with
  | unreadable => exact hread _ nofun
  | owned howned => exact hread _ nofun
  | sought hunowned hsought => exact hread _ (hsought.askedOnly fun place => scouts_getService)

/-- The first watched service that is there, looked for in the unit's namespace before the
system's. -/
def firstThere (u : IngressUnit) (there : String → String → Bool) : Option (String × String) :=
  u.watched.findSome? fun service =>
    if there u.chart.spec.id service then some (u.chart.spec.id, service)
    else if there systemNamespace service then some (systemNamespace, service)
    else none

variable {there : String → String → Bool}

/-- The places are in the order in which the services are looked for. -/
theorem find?_places (u : IngressUnit) (there : String → String → Bool) :
    (u.places.find? fun place => there place.1 place.2) = u.firstThere there := by
  rw [places, firstThere, List.find?_flatMap]
  congr 1
  funext service
  cases hid : there u.chart.spec.id service with
  | true => simp [hid]
  | false => cases hsystem : there systemNamespace service <;> simp [hid, hsystem]

theorem isSome_firstThere_iff :
    (u.firstThere there).isSome = true ↔ ∃ service ∈ u.watched,
      there u.chart.spec.id service = true ∨ there systemNamespace service = true := by
  rw [← find?_places, List.find?_isSome]
  constructor
  · rintro ⟨place, hplace, hthere⟩
    obtain ⟨hwatched, hid | hsystem⟩ := mem_places_iff.mp hplace
    · exact ⟨place.2, hwatched, Or.inl (hid ▸ hthere)⟩
    · exact ⟨place.2, hwatched, Or.inr (hsystem ▸ hthere)⟩
  · rintro ⟨service, hwatched, hid | hsystem⟩
    · exact ⟨(_, service), mem_places_iff.mpr ⟨hwatched, Or.inl rfl⟩, hid⟩
    · exact ⟨(_, service), mem_places_iff.mpr ⟨hwatched, Or.inr rfl⟩, hsystem⟩

end IngressUnit

/-! ### Leaving a component out -/

/-- The action asks nothing about the platform, changes no namespace and runs no command. -/
def Action.SparesPlatform : Action → Prop
  | .call .listNodes => False
  | .call .serverVersion => False
  | a => a.OnlyLooks

namespace Installer

variable {apply : Component → Settings → Engine Unit} {ss : Settings}

theorem applyAll_append (apply : Component → Settings → Engine Unit) (ss : Settings)
    (before later : List Component) :
    applyAll apply ss (before ++ later) =
      (applyAll apply ss before).andThen fun _ => applyAll apply ss later := by
  induction before with
  | nil => rfl
  | cons c rest ih =>
    show ((applyOne apply ss c).andThen fun _ => applyAll apply ss (rest ++ later)) =
      ((applyOne apply ss c).andThen fun _ => applyAll apply ss rest).andThen fun _ =>
        applyAll apply ss later
    rw [ih, andThen_andThen]

/-- What the user is told about a component that is left out. -/
def skipping (c : Component) (reason : String) : Action :=
  .say .exclamation ("Skipping " ++ c.id ++ ": " ++ reason)

variable {σ : Type} {world : World Action Action.Answer σ} {patience : Nat} {state mid after : σ}
  {c : Component} {reason : String} {before later : List Component}

theorem run_applyOne_provided
    (h : Script.run world patience c.provided state = (some (.ok (some reason)), after)) :
    Script.run world patience (applyOne apply ss c) state =
      (some (.ok ()), (world.answer (skipping c reason) after).2) :=
  run_mapError _ (run_andThen_ok h)

/-- Between the components before one that is provided and those after it nothing happens but the
asking and a word to the user. -/
theorem run_applyAll_provided
    (hbefore : Script.run world patience (applyAll apply ss before) state = (some (.ok ()), mid))
    (hprovided : Script.run world patience c.provided mid =
      (some (.ok (some reason)), after)) :
    Script.run world patience (applyAll apply ss (before ++ c :: later)) state =
      Script.run world patience (applyAll apply ss later)
        (world.answer (skipping c reason) after).2 := by
  rw [applyAll_append, run_andThen_ok hbefore]
  exact run_andThen_ok (run_applyOne_provided hprovided)

end Installer

namespace IngressUnit

open Installer

theorem Scouts.sparesPlatform {u : IngressUnit} {a : Action} (h : u.Scouts a) :
    a.SparesPlatform := by
  obtain rfl | ⟨service, -, rfl | rfl⟩ := h <;> trivial

/-- The check looks at the unit's namespace first, and fails if and only if one of its looks does.
If the namespace is the installer's, it gives no reason and looks no further.  Otherwise the watched
services are looked for, and a reason is given if and only if one of them is there, in the unit's
namespace or in that of the system; the reason names the first that is there.

Whenever it gives a reason, neither an installation nor an upgrade does anything about the unit but
those looks, and a word to the user: no question about the platform, no change of a namespace and no
command.  Then the components after it have their turn. -/
theorem left_out_iff_there (u : IngressUnit) :
    (Finishes u.provided fun outcome history =>
      ∃ (read : Except DeployError (Option Namespace)) (later : WorkHistory),
        history = .asked (.call (.getNamespace u.chart.spec.id)) read :: later ∧
        (∀ e, outcome = .error e ↔ read = .error e ∨ ∃ place, lookUp place (.error e) ∈ later) ∧
        (∀ found, read = .ok found → NamespaceState.ofFound found = .owned →
          outcome = .ok none ∧ later = []) ∧
        ∀ found, read = .ok found → NamespaceState.ofFound found ≠ .owned →
          Sought u.places outcome later ∧
          ∀ there, Shows there later →
            outcome = .ok ((u.firstThere there).map foundAt) ∧
            ((∃ reason, outcome = .ok (some reason)) ↔ ∃ service ∈ u.watched,
              there u.chart.spec.id service = true ∨ there systemNamespace service = true)) ∧
    ∀ (i : Installer) (verb : Verb) (before later : List Component),
      i.components = before ++ u.toComponent :: later →
      ∀ {σ : Type} (world : World Action Action.Answer σ) (patience : Nat) (state mid after : σ)
        (done asked : WorkHistory) (reason : String),
        Script.run world.recording patience
            (applyAll (fun c => c.applyBy verb) i.settings before) (state, []) =
          (some (.ok ()), mid, done) →
        Script.run world.recording patience u.provided (mid, []) =
          (some (.ok (some reason)), after, asked) →
        AskedOnly u.Scouts asked ∧
        AskedOnly Action.SparesPlatform (asked ++ [.asked (skipping u.toComponent reason) ()]) ∧
        Script.run world.recording patience (i.applyBy verb) (state, []) =
          Script.run world.recording patience
            (applyAll (fun c => c.applyBy verb) i.settings later)
            ((world.answer (skipping u.toComponent reason) after).2,
              done ++ asked ++ [.asked (skipping u.toComponent reason) ()]) := by
  constructor
  · apply (finishes_provided u).weaken
    intro outcome history hscouted
    cases hscouted with
    | @unreadable e =>
      refine ⟨.error e, [], rfl, fun e' => ?_, nofun, nofun⟩
      simp only [List.not_mem_nil, exists_false, or_false, Except.error.injEq]
    | @owned found howned =>
      refine ⟨.ok found, [], rfl, fun e' => ?_, fun _ _ _ => ⟨rfl, rfl⟩, ?_⟩
      · simp only [List.not_mem_nil, exists_false, or_false, reduceCtorEq]
      · rintro _ ⟨⟩ hunowned
        exact absurd howned hunowned
    | @sought found outcome later hunowned hsought =>
      refine ⟨.ok found, later, rfl, fun e' => ?_, ?_, ?_⟩
      · rw [hsought.error_iff]
        exact ⟨Or.inr, fun h => h.resolve_left nofun⟩
      · rintro _ ⟨⟩ howned
        exact absurd howned hunowned
      · rintro _ ⟨⟩ -
        refine ⟨hsought, fun there hshows => ?_⟩
        have hfirst : outcome = .ok ((u.firstThere there).map foundAt) := by
          rw [hsought.eq_find? hshows, find?_places]
        refine ⟨hfirst, ?_⟩
        rw [← isSome_firstThere_iff, hfirst]
        cases u.firstThere there <;> simp
  · intro i verb before later hcomponents σ world patience state mid after done asked reason
      hbefore hprovided
    obtain ⟨outcome, after', history, hrun, hscouted⟩ :=
      (finishes_provided u).run world patience mid
    cases hprovided.symm.trans hrun
    have hscouts : AskedOnly u.Scouts asked := hscouted.askedOnly
    refine ⟨hscouts, ?_, ?_⟩
    · apply AskedOnly.append fun a answer hmem => (hscouts a answer hmem).sparesPlatform
      rintro a answer ⟨⟩
      trivial
    · have hshifted := run_recording_append done hprovided
      rw [List.append_nil] at hshifted
      rw [applyBy_eq, hcomponents]
      exact run_applyAll_provided (c := u.toComponent) hbefore hshifted

/-- A unit with two services to watch. -/
def gate : IngressUnit where
  chart :=
    { spec :=
        { id := "gate", kind := .ingress, chart := some "gate", services := ["nginx", "traefik"] }
      settings := ∅
      budgets := {} }

/-- A cluster that has one of them in the system's namespace. -/
def shared : Fake where
  services := [(("kube-system", "traefik"), Specimen.service "kube-system" "traefik" none)]

/-- What is there. -/
def isShared (namespaceName service : String) : Bool :=
  namespaceName = "kube-system" && service = "traefik"

/-- The looks at the places of the unit. -/
def sharedLooks : WorkHistory :=
  missed [("gate", "nginx"), ("kube-system", "nginx"), ("gate", "traefik")] ++
    [lookUp ("kube-system", "traefik")
      (.ok (some (Specimen.service "kube-system" "traefik" none)))]

theorem shows_sharedLooks : Shows isShared sharedLooks := by
  intro place answer hmem
  simp only [sharedLooks, missed, List.map_cons, List.map_nil, List.cons_append, List.nil_append,
    List.mem_cons, List.not_mem_nil, or_false] at hmem
  obtain h | h | h | h := hmem <;> obtain ⟨rfl, rfl⟩ := lookUp_inj h <;> exact ⟨_, rfl, by decide⟩

theorem run_shared :
    ∃ after, Script.run (Fake.worldWith fun _ => .ok "").recording 0 gate.provided (shared, []) =
      (some (.ok (some "found existing ingress service kube-system/traefik")), after,
        sight "gate" none :: sharedLooks) :=
  ⟨_, rfl⟩

/-- The controller that the cluster brings along is found, and the unit is left out. -/
theorem left_out_iff_there_shared :
    ∃ after,
      Script.run (Fake.worldWith fun _ => .ok "").recording 0 gate.provided (shared, []) =
        (some (.ok ((gate.firstThere isShared).map foundAt)), after,
          sight "gate" none :: sharedLooks) ∧
      gate.firstThere isShared = some ("kube-system", "traefik") ∧
      AskedOnly gate.Scouts (sight "gate" none :: sharedLooks) ∧
      ∀ verb, Script.run (Fake.worldWith fun _ => .ok "").recording 0
          ((Installer.mk [gate.toComponent] ∅).applyBy verb) (shared, []) =
        (some (.ok ()), after, sight "gate" none :: sharedLooks ++
          [.asked (skipping gate.toComponent (foundAt ("kube-system", "traefik"))) ()]) := by
  obtain ⟨after, hrun⟩ := run_shared
  obtain ⟨outcome, after', history, hrun', read, later, hhistory, -, -, hsought⟩ :=
    (left_out_iff_there gate).1.run (Fake.worldWith fun _ => .ok "") 0 shared
  cases hrun.symm.trans hrun'
  cases hhistory
  have hfirst := (hsought none rfl (by decide)).2 isShared shows_sharedLooks
  have hskipped (verb : Verb) :=
    (left_out_iff_there gate).2 (Installer.mk [gate.toComponent] ∅) verb [] [] rfl
      (Fake.worldWith fun _ => .ok "") 0 shared shared after [] _ _ rfl hrun
  refine ⟨after, ?_, by decide, (hskipped .install).1, fun verb => (hskipped verb).2.2⟩
  rw [← hfirst.1]
  exact hrun

end IngressUnit

end Groundwork
