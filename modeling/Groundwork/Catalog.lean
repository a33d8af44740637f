import Groundwork.Duration.Words
import Groundwork.Settings
import Groundwork.Table

/-!
# Catalogs

A catalog lists the units of a platform in the order in which they are installed, with the budgets
for waiting.  `check` says which rule a catalog breaks first, if it breaks one.
-/

namespace Groundwork

/-! ### Budgets -/

/-- How long things may take. -/
structure Budgets where
  /-- How many times over the waiting budgets are granted; 0 counts as 1. -/
  multiplier : UInt32 := 1
  /-- For a unit to get ready. -/
  deployment : Duration := .ofSeconds 180
  /-- For a deleted namespace to vanish. -/
  namespaceDeletion : Duration := .ofSeconds 300
  /-- Between two attempts after a passing failure. -/
  retryDelay : Duration := .ofSeconds 5
  /-- How many attempts are made. -/
  retryAttempts : UInt32 := 10
  /-- For an ingress service to get a load balancer address. -/
  loadBalancer : Duration := .ofSeconds 120
  deriving DecidableEq

namespace Budgets

/-- A budget times the multiplier, or the largest duration where the product does not fit. -/
def scaled (b : Budgets) (base : Duration) : Duration :=
  (base.times? (max b.multiplier 1)).getD .max

/-- The budget for a unit to get ready. -/
def forDeployment (b : Budgets) : Duration := b.scaled b.deployment

/-- The budget for a deleted namespace to vanish. -/
def forNamespaceDeletion (b : Budgets) : Duration := b.scaled b.namespaceDeletion

/-- The budget for a load balancer address. -/
def forLoadBalancer (b : Budgets) : Duration := b.scaled b.loadBalancer

end Budgets

/-! ### Units -/

/-- How a unit is applied. -/
inductive UnitKind where
  /-- A chart. -/
  | chart
  /-- A manifest. -/
  | manifest
  /-- A chart that steps aside for an ingress controller that is already there. -/
  | ingress
  deriving DecidableEq

/-- A setting as a unit declares it. -/
structure SettingSpec where
  name : String
  kind : Kind
  default : Option Value := none
  description : String := ""
  /-- Whether only the unit sees it. -/
  isPrivate : Bool := false
  deriving DecidableEq

/-- A unit of a platform. -/
structure UnitSpec where
  /-- The id, which is also the name of the namespace. -/
  id : String
  version : String := ""
  description : String := ""
  kind : UnitKind := .chart
  /-- Where the chart is: a name in a repository, a url or a path. -/
  chart : Option String := none
  /-- The repository of the chart. -/
  repo : Option String := none
  /-- The name of the release, if it is not the id. -/
  release : Option String := none
  /-- The file or url of the manifest. -/
  manifest : Option String := none
  /-- Values for the chart, in which references to settings are replaced. -/
  values : Table String String := []
  settings : List SettingSpec := []
  /-- Selectors of the pods that have to run. -/
  ready : List String := []
  /-- Resource definitions that have to be established. -/
  crds : List String := []
  /-- Manifests that are applied once the unit is ready. -/
  postApply : List String := []
  /-- A setting that, when true, leaves the unit out. -/
  skipSetting : Option String := none
  /-- Services that show that an ingress controller is there. -/
  services : List String := []
  deriving DecidableEq

namespace SettingSpec

/-- The default of the declared kind, or the rule that is broken. -/
def typedDefault (s : SettingSpec) (unit : String) : Except CatalogFault Value :=
  match s.default with
  | none => .ok (.zero s.kind)
  | some v =>
    match v.coerce s.kind with
    | some v' => .ok v'
    | none => .error (.defaultMismatch unit v s.name s.kind)

/-- The setting that a unit declares. -/
def toSetting (s : SettingSpec) (unit : String) : Except CatalogFault Setting :=
  (s.typedDefault unit).map fun default =>
    { name := s.name
      description := s.description
      scope := if s.isPrivate then .unit unit else .shared
      default }

end SettingSpec

namespace UnitSpec

/-- The name of the release. -/
def releaseName (u : UnitSpec) : String :=
  u.release.getD u.id

/-- The settings that a unit declares. -/
def declared (u : UnitSpec) : Except CatalogFault Settings :=
  (u.settings.mapM fun s : SettingSpec => s.toSetting u.id).map Settings.ofList

end UnitSpec

/-! ### Catalogs -/

/-- The units of a platform, in the order in which they are installed, and the budgets. -/
structure Catalog where
  budgets : Budgets := {}
  units : List UnitSpec
  deriving DecidableEq

namespace Catalog

/-- The unit with this id. -/
def unit? (c : Catalog) (id : String) : Option UnitSpec :=
  c.units.find? fun u => u.id = id

/-- The first shared declaration of a name: its kind and the unit that makes it. -/
abbrev SharedKinds := List (String × Kind × String)

/-- The kind under which a name is shared and the unit that says so. -/
def SharedKinds.get? (shared : SharedKinds) (name : String) : Option (Kind × String) :=
  (shared.find? fun entry => entry.1 = name).map Prod.snd

/-- Goes through the shared declarations of a unit; all declarations of a name have one kind. -/
def checkShared (unit : String) : SharedKinds → List SettingSpec → Except CatalogFault SharedKinds
  | shared, [] => .ok shared
  | shared, s :: rest =>
    if s.isPrivate then checkShared unit shared rest
    else match shared.get? s.name with
      | some (kind, first) =>
        if kind = s.kind then checkShared unit shared rest
        else .error (.kindConflict s.name kind first s.kind unit)
      | none => checkShared unit (shared ++ [(s.name, s.kind, unit)]) rest

/-- Checks that a unit has what its kind needs. -/
def checkSource (u : UnitSpec) : Except CatalogFault Unit :=
  match u.kind with
  | .manifest => if u.manifest.isNone then .error (.missingManifest u.id) else .ok ()
  | _ => if u.chart.isNone then .error (.missingChart u.id) else .ok ()

/-- Checks the units in order, given the ids and shared settings of those before them. -/
def checkUnits : List String → SharedKinds → List UnitSpec → Except CatalogFault SharedKinds
  | _, shared, [] => .ok shared
  | ids, shared, u :: rest => do
    if u.id.isEmpty then throw .emptyUnitId
    else if u.id ∈ ids then throw (.duplicateUnit u.id)
    else
      checkSource u
      let _ ← u.declared
      let shared ← checkShared u.id shared u.settings
      checkUnits (u.id :: ids) shared rest

/-- The kind of the setting that a unit is skipped by: its own first declaration of the name, else
the shared one. -/
def skipKind? (shared : SharedKinds) (u : UnitSpec) (skip : String) : Option Kind :=
  ((u.settings.find? fun s => s.name = skip).map SettingSpec.kind).or
    ((shared.get? skip).map Prod.fst)

/-- Checks that units are skipped by truth values only. -/
def checkSkips (shared : SharedKinds) : List UnitSpec → Except CatalogFault Unit
  | [] => .ok ()
  | u :: rest =>
    match u.skipSetting with
    | none => checkSkips shared rest
    | some skip =>
      match skipKind? shared u skip with
      | some kind =>
        if kind = .boolean then checkSkips shared rest
        else .error (.skipNotBoolean u.id skip kind)
      | none => checkSkips shared rest

/-- The first rule that a catalog breaks. -/
def check (c : Catalog) : Except CatalogFault Unit := do
  if c.budgets.multiplier = 0 then throw .zeroMultiplier
  else
    let shared ← checkUnits [] [] c.units
    checkSkips shared c.units

end Catalog

end Groundwork
