import Groundwork.Engine
import Groundwork.Settings

/-!
# Components

What the installer knows of a unit: who it is, what settings it needs, and the scripts that install,
upgrade and remove it.
-/

namespace Groundwork

/-- One installable part of a platform. -/
structure Component where
  /-- The id, which is also the name of the namespace. -/
  id : String
  version : String
  /-- One line about the component. -/
  description : String
  /-- The settings that have to be given before it is installed or upgraded. -/
  needed : Settings
  /-- Installs it into a fresh namespace. -/
  install : Settings → Engine Unit
  /-- Applies it again to an installation that is there. -/
  upgrade : Settings → Engine Unit
  /-- Removes everything, the namespace too. -/
  remove : Engine Unit
  /-- Saves its data. -/
  backup : String → Engine Unit := fun _ => .done ()
  /-- Brings its data back. -/
  restore : String → Engine Unit := fun _ => .done ()
  /-- Why the component can be left out, if the cluster provides it already. -/
  provided : Engine (Option String) := .done none

end Groundwork
