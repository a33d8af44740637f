import Groundwork.Cluster.Ownership
import Groundwork.Component
import Groundwork.Settings.Listing
import Groundwork.Ui

/-!
# What the command line prints

The settings before anything is applied, the facts about the cluster, and the units with the state
they are in.  Every text ends with a line break; `colors` says whether the terminal shows them.
-/

namespace Groundwork.CommandLine.Display

open Cluster

/-- A line. -/
def line (s : String) : String := s ++ "\n"

/-- A dimmed dot at the front of an item. -/
def item (colors : Bool) (s : String) : String :=
  line ("  " ++ Style.dim.apply colors "·" ++ " " ++ s)

/-- The line above the settings. -/
def settingsTitle (colors : Bool) : String :=
  line (Style.bold.apply colors "Configuration")

/-- The settings with their values; nothing if there are none. -/
def settings (colors : Bool) (ss : Settings) : String :=
  if ss.isEmpty then ""
  else settingsTitle colors ++ String.join (ss.listing.map (item colors)) ++ line ""

/-- A fact with its name. -/
def fact (colors : Bool) (name value : String) : String :=
  line (Style.bold.apply colors name ++ " " ++ value)

/-- The facts about the cluster. -/
def facts (colors : Bool) (f : Facts) : String :=
  fact colors "Kubernetes:" f.serverVersion
    ++ fact colors "Platform:" f.platform
    ++ fact colors "Node addresses:"
      (if f.externalIps.isEmpty then "none" else Text.join ", " f.externalIps)
    ++ fact colors "Load balancer:" (if f.hasLoadBalancer then "yes" else "no")
    ++ line ""

/-- The words for the state of a unit's namespace. -/
def state (colors : Bool) : NamespaceState → String
  | .absent => Style.dim.apply colors "not installed"
  | .owned => Style.green.apply colors "installed"
  | .foreign => Style.yellow.apply colors "present, not managed by plinth"

/-- A unit, with the state of its namespace if it is known. -/
def unit (colors : Bool) (c : Component) (known : Option NamespaceState) : String :=
  let description := Style.cyan.apply colors c.description
  item colors (match known with
    | some s => description ++ " (" ++ state colors s ++ ")"
    | none => description)

end Groundwork.CommandLine.Display
