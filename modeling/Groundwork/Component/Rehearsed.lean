import Groundwork.Component

/-!
# Rehearsed components

Components that do nothing but note what is asked of them, and fail where they are told to.
-/

namespace Groundwork

/-- What a rehearsed component is told. -/
structure Rehearsed where
  id : String
  version : String := ""
  description : String := ""
  settings : Settings := ∅
  /-- Why the component is provided already, or the error of finding out. -/
  provided : Except DeployError (Option String) := .ok none
  install : Except DeployError Unit := .ok ()
  upgrade : Except DeployError Unit := .ok ()
  remove : Except DeployError Unit := .ok ()

namespace Rehearsed

/-- The settings that were handed over, as they are noted. -/
def settingsNote (settings : Settings) : String :=
  "(" ++ Text.join "," (settings.entries.map fun s => s.name ++ "=" ++ s.value.text) ++ ")"

/-- Notes what is asked, tells the user, and ends as told. -/
def act (r : Rehearsed) (what handed : String) (outcome : Except DeployError Unit) :
    Engine Unit := do
  Engine.note (what ++ ":" ++ r.id ++ handed)
  Engine.say .detail (what ++ " " ++ r.id)
  Script.ofExcept outcome

/-- The component. -/
def toComponent (r : Rehearsed) : Component where
  id := r.id
  version := r.version
  description := r.description
  needed := r.settings
  install := fun settings => r.act "deploy" (settingsNote settings) r.install
  upgrade := fun settings => r.act "upgrade" (settingsNote settings) r.upgrade
  remove := r.act "delete" "" r.remove
  provided := Script.ofExcept r.provided

end Rehearsed

end Groundwork
