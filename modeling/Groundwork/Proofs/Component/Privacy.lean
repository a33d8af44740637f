import Groundwork.Engine.Rehearsal
import Groundwork.Proofs.Component.Applying
import Groundwork.Proofs.Script.History
import Groundwork.Proofs.Settings.Keys

/-!
# What is private stays private

A component reads settings by their names, and each name means its own setting or a shared one.  So
two lists that `AgreeFor` a component, whatever they say of the settings of others, are `ReadAlike`
by it.  Skipping, filling templates and all that follows look no further (`applyBy_eq`), and the
component is applied in the same way in both cases: it calls the cluster, runs commands and talks to
the user alike, and ends alike (`run_applyOne_of_agreeFor`).
-/

namespace Groundwork

open Script

/-! ### Lists that agree for a unit -/

/-- What is read of a setting that was found. -/
def Setting.reading (s : Setting) : Kind × Value :=
  (s.kind, s.value)

namespace Settings

variable {ss ss' : Settings} {unit name : String}

/-- Shared settings and those of the unit read the same in both lists.  Nothing is said of the
settings of other units, nor of the order. -/
def AgreeFor (unit : String) (ss ss' : Settings) : Prop :=
  ∀ name scope, scope = .shared ∨ scope = .unit unit →
    (ss.find? name scope).map Setting.reading = (ss'.find? name scope).map Setting.reading

/-- Every name means the same to the unit in both lists. -/
def ReadAlike (unit : String) (ss ss' : Settings) : Prop :=
  ∀ name, (ss.get? name (some unit)).map Setting.reading =
    (ss'.get? name (some unit)).map Setting.reading

/-- Lists in which the unit sees the same agree for it. -/
theorem agreeFor_of_viewFor_eq (h : ss.viewFor unit = ss'.viewFor unit) : AgreeFor unit ss ss' := by
  intro name scope hscope
  rw [← ss.find?_viewFor hscope, h, ss'.find?_viewFor hscope]

/-- A unit reads no more than the settings that were agreed on. -/
theorem AgreeFor.readAlike (h : AgreeFor unit ss ss') :
    ReadAlike unit (ss.viewFor unit) (ss'.viewFor unit) := by
  intro name
  -- its own setting comes first, and the shared one is read where it has none
  rw [get?_viewFor, get?_viewFor, get?_eq, get?_eq, Option.bind_some, Option.bind_some, Option.map_or,
    Option.map_or, h name .shared (Or.inl rfl), h name (.unit unit) (Or.inr rfl)]

theorem name_of_get? {s : Setting} (h : ss.get? name (some unit) = some s) : s.name = name := by
  rw [get?_eq, Option.bind_some, Option.or_eq_some_iff] at h
  rcases h with hown | ⟨-, hshared⟩
  · exact (find?_eq_some hown).2.1
  · exact (find?_eq_some hshared).2.1

namespace ReadAlike

variable (h : ReadAlike unit ss ss')

include h

/-- A name is unknown in both lists, or found with the same kind and value in both. -/
theorem cases (name : String) :
    ss.get? name (some unit) = none ∧ ss'.get? name (some unit) = none ∨
      ∃ s s', ss.get? name (some unit) = some s ∧ ss'.get? name (some unit) = some s' ∧
        s.name = s'.name ∧ s.kind = s'.kind ∧ s.value = s'.value := by
  have hname := h name
  rcases hs : ss.get? name (some unit) with _ | s
  · rw [hs, Option.map_none] at hname
    exact Or.inl ⟨rfl, Option.map_eq_none_iff.mp hname.symm⟩
  · rw [hs, Option.map_some] at hname
    obtain ⟨s', hs', hreading⟩ := Option.map_eq_some_iff.mp hname.symm
    obtain ⟨hkind, hvalue⟩ := Prod.mk.inj hreading
    refine Or.inr ⟨s, s', rfl, hs', ?_, hkind.symm, hvalue.symm⟩
    rw [name_of_get? hs, name_of_get? hs']

theorem getBool (name : String) : ss.getBool name (some unit) = ss'.getBool name (some unit) := by
  unfold Settings.getBool typed require
  rcases h.cases name with ⟨hs, hs'⟩ | ⟨s, s', hs, hs', hname, hkind, hvalue⟩
  · rw [hs, hs']
  · rw [hs, hs']
    simp only
    rw [hname, hkind, hvalue]

/-- Templates are filled alike. -/
theorem fill (escape : String → String) (template : String) :
    Template.fill escape ss unit template = Template.fill escape ss' unit template := by
  -- a template reads nothing but the texts of values
  have htext (name : String) :
      (ss.get? name (some unit)).map (fun s => escape s.value.text) =
        (ss'.get? name (some unit)).map fun s => escape s.value.text := by
    rcases h.cases name with ⟨hs, hs'⟩ | ⟨s, s', hs, hs', -, -, hvalue⟩
    · rw [hs, hs']
    · rw [hs, hs', Option.map_some, Option.map_some, hvalue]
  unfold Template.fill
  simp only [htext]

end ReadAlike

end Settings

open Settings

/-! ### One unit -/

namespace ChartUnit

variable {u : ChartUnit} {ss ss' : Settings} (h : ReadAlike u.spec.id ss ss')

include h

theorem skipReason_eq : u.skipReason ss = u.skipReason ss' := by
  unfold skipReason
  cases u.spec.skipSetting with
  | none => rfl
  | some name =>
    simp only
    rw [h.getBool name]

theorem filledValues_eq : u.filledValues ss = u.filledValues ss' := by
  unfold filledValues
  simp only [h.fill]

theorem applyCommand_eq (verb : Verb) (extra : List (String × String)) :
    u.applyCommand verb ss extra = u.applyCommand verb ss' extra := by
  unfold applyCommand
  rw [filledValues_eq h]

/-- The manifests that follow are the same texts. -/
theorem applyFollowing_eq (manifests : List String) :
    u.applyFollowing ss manifests = u.applyFollowing ss' manifests := by
  induction manifests with
  | nil => rfl
  | cons manifest rest ih =>
    unfold applyFollowing
    rw [h.fill, ih]

theorem apply_eq (verb : Verb) (extra : List (String × String)) :
    u.apply verb ss extra = u.apply verb ss' extra := by
  unfold apply
  rw [applyCommand_eq h, applyFollowing_eq h]

theorem applyWith_eq (verb : Verb) : u.applyWith verb ss = u.applyWith verb ss' := by
  funext extra
  have hskip := skipReason_eq h
  rcases hreason : u.skipReason ss with fault | reason | _
  · rw [u.applyWith_of_error hreason, u.applyWith_of_error (hskip ▸ hreason)]
  · rw [u.applyWith_of_active hreason, u.applyWith_of_active (hskip ▸ hreason), apply_eq h]
  · rw [u.applyWith_of_skipped hreason, u.applyWith_of_skipped (hskip ▸ hreason)]

end ChartUnit

/-! ### Components of a catalog -/

namespace Component

variable {spec : UnitSpec} {budgets : Budgets} {c : Component} {ss ss' : Settings}

theorem applyBy_eq (hc : ofSpec spec budgets = .ok c) (h : ReadAlike c.id ss ss') (verb : Verb) :
    c.applyBy verb ss = c.applyBy verb ss' := by
  obtain ⟨u, rfl, -, -⟩ := ChartUnit.component_of_ofSpec hc
  rw [u.id_component] at h
  rw [u.applyBy_component, u.applyBy_component, ChartUnit.applyWith_eq h]

end Component

namespace Installer

variable {catalog : Catalog} {components : List Component} {c : Component} {ss ss' : Settings}
  {σ : Type}

/-- The settings that are private to others are nothing to a component.  If two lists agree on the
shared settings and on its own, it is applied alike with both: what it asks of the cluster and of
programs, what the user is told, how long it sleeps and how it ends are the same. -/
theorem run_applyOne_of_agreeFor (hc : Component.ofCatalog catalog = .ok components)
    (hmem : c ∈ components) (h : AgreeFor c.id ss ss') (verb : Verb)
    (world : World Action Action.Answer σ) (patience : Nat)
    (state : σ × History Action Action.Answer) :
    Script.run world.recording patience (c.applyBy verb (ss.viewFor c.id)) state =
        Script.run world.recording patience (c.applyBy verb (ss'.viewFor c.id)) state ∧
      Script.run world.recording patience (applyOne (fun c => c.applyBy verb) ss c) state =
        Script.run world.recording patience (applyOne (fun c => c.applyBy verb) ss' c) state := by
  obtain ⟨spec, -, hspec⟩ := exists_of_mem_right (Component.ofCatalog_eq_ok.mp hc) hmem
  have happly := Component.applyBy_eq hspec h.readAlike verb
  -- both are one and the same script, so nothing need be known of the world
  have hone : applyOne (fun c => c.applyBy verb) ss c =
      applyOne (fun c => c.applyBy verb) ss' c := by
    simp only [applyOne, happly]
  rw [happly, hone]
  exact ⟨rfl, rfl⟩

/-- A chart that hands a private setting and a shared one on. -/
def tenant (id : String) : UnitSpec :=
  { id, chart := some id, values := [("replicas", "$\x7breplicas\x7d"), ("host", "$\x7bdomain\x7d")]
    settings := [{ name := "domain", kind := .string },
      { name := "replicas", kind := .integer, isPrivate := true }] }

/-- The domain and a private setting of each of two tenants. -/
def tenancy (replicas : Value) : Settings :=
  ⟨[{ name := "domain", default := .string "", choice := .given (.string "my.org") true },
    { name := "replicas", scope := .unit "wiki", default := replicas,
      choice := .given replicas true },
    { name := "replicas", scope := .unit "forge", default := .int 1,
      choice := .given (.int 3) true }]⟩

theorem run_applyOne_of_agreeFor_tenant :
    ∃ components c, Component.ofCatalog { units := [tenant "wiki", tenant "forge"] } =
        .ok components ∧ c ∈ components ∧ c.id = "forge" ∧
      (tenancy (.int 2)).get? "replicas" (some "wiki") ≠
        (tenancy (.string "many")).get? "replicas" (some "wiki") ∧
      Script.run Rehearsal.world.recording 1
          (applyOne (fun c => c.applyBy .install) (tenancy (.int 2)) c) ({}, []) =
        Script.run Rehearsal.world.recording 1
          (applyOne (fun c => c.applyBy .install) (tenancy (.string "many")) c) ({}, []) := by
  have hagree : AgreeFor "forge" (tenancy (.int 2)) (tenancy (.string "many")) :=
    agreeFor_of_viewFor_eq rfl
  have hdiffer : (tenancy (.int 2)).get? "replicas" (some "wiki") ≠
      (tenancy (.string "many")).get? "replicas" (some "wiki") := by
    intro heq
    -- settings hold functions and cannot be compared, but their values can
    have hvalue := congrArg (Option.map Setting.value) heq
    revert hvalue
    decide
  refine ⟨_, _, rfl, List.mem_cons_of_mem _ (List.mem_singleton_self _), rfl, hdiffer, ?_⟩
  exact (@run_applyOne_of_agreeFor { units := [tenant "wiki", tenant "forge"] } _ _ _ _ _ rfl
    (List.mem_cons_of_mem _ (List.mem_singleton_self _)) hagree .install Rehearsal.world 1
    ({}, [])).2

end Installer

end Groundwork
