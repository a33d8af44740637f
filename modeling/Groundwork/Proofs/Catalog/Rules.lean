import Groundwork.Catalog

/-!
# The rules for catalogs

What a catalog has to be like (`WellFormed`), said of all its units at once and in no order, and
which rule it breaks first if it is not (`FirstFault`).  A unit is judged by the units before it
(`UnitFault`): by its id, its source, the defaults that it declares, and the kinds that others gave
to the settings it shares, in this order.  What units are skipped by is judged once all units are.
-/

namespace Groundwork

/-! ### Declarations and units -/

/-- The default that is declared for a setting, if there is one, can be turned into its kind. -/
def SettingSpec.DefaultFits (s : SettingSpec) : Prop :=
  ∀ v, s.default = some v → ∃ v', v.coerce s.kind = some v'

/-- The unit has what its kind needs: a manifest, or else a chart. -/
def UnitSpec.HasSource (u : UnitSpec) : Prop :=
  (u.kind = .manifest → u.manifest ≠ none) ∧ (u.kind ≠ .manifest → u.chart ≠ none)

namespace Catalog

/-- The shared declarations among those of a unit, each with the id of the unit. -/
def sharedIn (unit : String) (settings : List SettingSpec) : List (SettingSpec × String) :=
  (settings.filter fun s => !s.isPrivate).map fun s => (s, unit)

/-- The shared declarations of all units, in order. -/
def sharedOf (units : List UnitSpec) : List (SettingSpec × String) :=
  units.flatMap fun u => sharedIn u.id u.settings

/-- The first of some declarations that has the name. -/
def first? (declarations : List (SettingSpec × String)) (name : String) :
    Option (SettingSpec × String) :=
  declarations.find? fun d => d.1.name = name

/-- Declarations of one name have one kind. -/
def KindsAgree (declarations : List (SettingSpec × String)) : Prop :=
  ∀ d ∈ declarations, ∀ e ∈ declarations, d.1.name = e.1.name → d.1.kind = e.1.kind

/-- A unit means a setting of this kind by the name: its own first declaration of the name, or a
shared one of any unit if it declares nothing of that name itself. -/
def Means (units : List UnitSpec) (u : UnitSpec) (name : String) (kind : Kind) : Prop :=
  (∃ s, u.settings.find? (fun s => s.name = name) = some s ∧ s.kind = kind) ∨
    (∀ s ∈ u.settings, s.name ≠ name) ∧
      ∃ v ∈ units, ∃ s ∈ v.settings, s.isPrivate = false ∧ s.name = name ∧ s.kind = kind

/-- If the unit is skipped by a setting, that is a truth value. -/
def SkippedByTruth (units : List UnitSpec) (u : UnitSpec) : Prop :=
  ∀ skip kind, u.skipSetting = some skip → Means units u skip kind → kind = .boolean

/-! ### Well-formed catalogs -/

/-- The rules for the units of a catalog, apart from those on what they are skipped by. -/
structure Coherent (units : List UnitSpec) : Prop where
  named : ∀ u ∈ units, u.id ≠ ""
  distinct : (units.map UnitSpec.id).Nodup
  sourced : ∀ u ∈ units, u.HasSource
  fitting : ∀ u ∈ units, ∀ s ∈ u.settings, s.DefaultFits
  agreeing : ∀ u ∈ units, ∀ v ∈ units, ∀ s ∈ u.settings, ∀ t ∈ v.settings,
    s.isPrivate = false → t.isPrivate = false → s.name = t.name → s.kind = t.kind

/-- The rules for catalogs. -/
structure WellFormed (c : Catalog) : Prop where
  multiplier : 1 ≤ c.budgets.multiplier
  coherent : Coherent c.units
  skipped : ∀ u ∈ c.units, SkippedByTruth c.units u

/-! ### The first rule that is broken -/

/-- The unit has an id that no unit before it has. -/
def FreshId (before : List UnitSpec) (u : UnitSpec) : Prop :=
  u.id ≠ "" ∧ ∀ v ∈ before, v.id ≠ u.id

/-- The first default that does not fit its declaration. -/
def Misfit (unit : String) (settings : List SettingSpec) (fault : CatalogFault) : Prop :=
  ∃ pre s post, settings = pre ++ s :: post ∧ (∀ t ∈ pre, t.DefaultFits) ∧
    ∃ v, s.default = some v ∧ v.coerce s.kind = none ∧
      fault = .defaultMismatch unit v s.name s.kind

/-- The first shared declaration whose kind is not that of the first declaration of its name, given
the declarations that were made before. -/
def Conflict (earlier : List (SettingSpec × String)) (unit : String) (settings : List SettingSpec)
    (fault : CatalogFault) : Prop :=
  ∃ pre s post, settings = pre ++ s :: post ∧ s.isPrivate = false ∧
    KindsAgree (earlier ++ sharedIn unit pre) ∧
    ∃ d, first? (earlier ++ sharedIn unit pre) s.name = some d ∧ d.1.kind ≠ s.kind ∧
      fault = .kindConflict s.name d.1.kind d.2 s.kind unit

/-- The rule that a unit breaks first, given the units before it. -/
inductive UnitFault (before : List UnitSpec) (u : UnitSpec) : CatalogFault → Prop
  | noId (hid : u.id = "") : UnitFault before u .emptyUnitId
  | takenId (hid : u.id ≠ "") (htaken : ∃ v ∈ before, v.id = u.id) :
    UnitFault before u (.duplicateUnit u.id)
  | noManifest (hid : FreshId before u) (hkind : u.kind = .manifest) (hnone : u.manifest = none) :
    UnitFault before u (.missingManifest u.id)
  | noChart (hid : FreshId before u) (hkind : u.kind ≠ .manifest) (hnone : u.chart = none) :
    UnitFault before u (.missingChart u.id)
  | misfit {fault : CatalogFault} (hid : FreshId before u) (hsource : u.HasSource)
    (hmisfit : Misfit u.id u.settings fault) : UnitFault before u fault
  | conflict {fault : CatalogFault} (hid : FreshId before u) (hsource : u.HasSource)
    (hfit : ∀ s ∈ u.settings, s.DefaultFits)
    (hconflict : Conflict (sharedOf before) u.id u.settings fault) : UnitFault before u fault

/-- The rule that a catalog breaks first. -/
inductive FirstFault (c : Catalog) : CatalogFault → Prop
  | multiplier (hzero : c.budgets.multiplier = 0) : FirstFault c .zeroMultiplier
  /-- The first unit that breaks a rule decides, before anything is skipped. -/
  | unit {before after : List UnitSpec} {u : UnitSpec} {fault : CatalogFault}
    (hmultiplier : 1 ≤ c.budgets.multiplier) (hunits : c.units = before ++ u :: after)
    (hbefore : Coherent before) (hu : UnitFault before u fault) : FirstFault c fault
  /-- All units keep the other rules, and this is the first that is skipped by something else. -/
  | skip {before after : List UnitSpec} {u : UnitSpec} {skip : String} {kind : Kind}
    (hmultiplier : 1 ≤ c.budgets.multiplier) (hcoherent : Coherent c.units)
    (hunits : c.units = before ++ u :: after)
    (hbefore : ∀ v ∈ before, SkippedByTruth c.units v) (hskip : u.skipSetting = some skip)
    (hmeans : Means c.units u skip kind) (hkind : kind ≠ .boolean) :
    FirstFault c (.skipNotBoolean u.id skip kind)

end Catalog

end Groundwork
