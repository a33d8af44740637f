import Groundwork.Component.Ingress
import Groundwork.Resolution

/-!
# The installer

Runs the components of a platform in order, and in reverse order to remove them.  Installing and
upgrading stop at the first failure; removing goes on and reports all failures together.
-/

namespace Groundwork

/-- The components of a platform, in the order in which they are installed, and their settings. -/
structure Installer where
  components : List Component
  settings : Settings := ∅

namespace Installer

/-- The installer of a catalog, without settings yet. -/
def ofCatalog (c : Catalog) : Except SetupError Installer :=
  (Component.ofCatalog c).map fun components => ⟨components, ∅⟩

/-! ### Settings -/

/-- The settings of all components.  The value of a shared setting is taken away, so that the
component that declares it last does not decide it. -/
def gathered (components : List Component) : Settings :=
  components.foldl (fun ss c => ss.merge c.needed.clearShared) ∅

/-- The installer with the settings of all its components, none of them given. -/
def gather (i : Installer) : Installer :=
  { i with settings := gathered i.components }

/-! ### Runs -/

/-- Applies one component, unless the cluster provides it.  Errors carry its id. -/
def applyOne (apply : Component → Settings → Engine Unit) (settings : Settings) (c : Component) :
    Engine Unit :=
  Script.mapError (DeployError.inUnit c.id) do
    match ← c.provided with
    | some reason => Engine.say .exclamation ("Skipping " ++ c.id ++ ": " ++ reason)
    | none => apply c (settings.viewFor c.id)

/-- Applies components in order, up to the first failure. -/
def applyAll (apply : Component → Settings → Engine Unit) (settings : Settings) :
    List Component → Engine Unit
  | [] => return ()
  | c :: rest => do
    applyOne apply settings c
    applyAll apply settings rest

/-- Installs every component. -/
def install (i : Installer) : Engine Unit :=
  applyAll Component.install i.settings i.components

/-- Upgrades every component. -/
def upgrade (i : Installer) : Engine Unit :=
  applyAll Component.upgrade i.settings i.components

/-- Removes components in order and gives the failures, each with the id of its component. -/
def removeAll : List Component → Engine (List DeployError)
  | [] => return []
  | c :: rest => do
    match ← c.remove.attempt with
    | .ok _ => removeAll rest
    | .error e =>
      Engine.say .problem ("Failed to remove " ++ c.id ++ ": " ++ e.message)
      return .inUnit c.id e :: (← removeAll rest)

/-- Removes every component, the last one first. -/
def uninstall (i : Installer) : Engine Unit := do
  match ← removeAll i.components.reverse with
  | [] => return ()
  | failures => throw (.uninstall failures)

end Installer

end Groundwork
