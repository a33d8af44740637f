import Groundwork.Catalog
import Groundwork.Cluster.Ownership
import Groundwork.Cluster.Readiness
import Groundwork.Component
import Groundwork.Component.Template

/-!
# Charts and manifests

A component that is applied with `helm`, or with `kubectl` if it is a manifest.  Installing goes
through the same steps in the same order as upgrading: the skip setting, the guard, the command
that applies it, the waits for pods and resource definitions, and the manifests that follow.
-/

namespace Groundwork

open Cluster

/-! ### Values for charts -/

/-- The characters that mean something to the reader of chart values. -/
def isValueMark (c : Char) : Bool :=
  c == '\\' || c == ',' || c == '='

/-- A value with a backslash before each character that means something to its reader. -/
def escapeValue (s : String) : String :=
  String.ofList (s.toList.flatMap fun c => if isValueMark c then ['\\', c] else [c])

/-- Arguments that set a value of a chart. -/
def valueArgs (key value : String) : List String :=
  ["--set", key ++ "=" ++ value]

/-! ### The component -/

/-- What is done to a component. -/
inductive Verb where
  | install
  | upgrade
  deriving DecidableEq

/-- A chart or a manifest with its settings and budgets. -/
structure ChartUnit where
  spec : UnitSpec
  /-- The settings it declares, with the one that skips it. -/
  settings : Settings
  budgets : Budgets

namespace ChartUnit

/-- The setting that is declared for a unit that names one to be skipped by. -/
def skipSetting (spec : UnitSpec) (name : String) : Setting :=
  { name, description := "Skip installing " ++ spec.id, default := .bool false }

/-- Adds the setting that skips a unit, unless the unit declares one of that name. -/
def withSkipSetting (spec : UnitSpec) (declared : Settings) : Settings :=
  match spec.skipSetting with
  | none => declared
  | some name =>
    if declared.entries.any fun s => s.name = name then declared
    else declared.insert (skipSetting spec name)

/-- The unit of a specification. -/
def ofSpec (spec : UnitSpec) (budgets : Budgets) : Except SetupError ChartUnit :=
  match spec.declared with
  | .error fault => .error (.catalog fault)
  | .ok declared => .ok ⟨spec, withSkipSetting spec declared, budgets⟩

/-- Who the unit is, in a few words. -/
def describe (u : ChartUnit) : String :=
  let spec := u.spec
  let name := if spec.version.isEmpty then spec.id else spec.id ++ " " ++ spec.version
  if spec.description.isEmpty then name else spec.description ++ " (" ++ name ++ ")"

/-- Why the unit is skipped, if its setting says so. -/
def skipReason (u : ChartUnit) (settings : Settings) : Except SetupError (Option String) :=
  match u.spec.skipSetting with
  | none => .ok none
  | some name =>
    (settings.getBool name (some u.spec.id)).map fun skip =>
      if skip then some (name ++ " is set") else none

/-! ### Commands -/

/-- A command on the manifest of the unit. -/
def manifestCommand (u : ChartUnit) (verb : String) : Invocation :=
  { program := "kubectl"
    args := [verb, "--namespace", u.spec.id, "--filename", u.spec.manifest.getD ""] }

/-- The arguments for the values of the unit, with its templates filled. -/
def filledValues (u : ChartUnit) (settings : Settings) : Except SetupError (List String) :=
  (u.spec.values.mapM fun entry =>
    (Template.fill escapeValue settings u.spec.id entry.2).map (valueArgs entry.1)).map
      List.flatten

/-- The command that applies the unit; `extra` are further values for a chart. -/
def applyCommand (u : ChartUnit) (verb : Verb) (settings : Settings)
    (extra : List (String × String)) : Except SetupError Invocation :=
  let spec := u.spec
  if spec.kind = .manifest then .ok (u.manifestCommand "apply")
  else
    (u.filledValues settings).map fun values =>
      { program := "helm"
        args := [if verb = .upgrade then "upgrade" else "install", spec.releaseName,
            spec.chart.getD "", "--namespace", spec.id]
          ++ (if spec.version.isEmpty then [] else ["--version", spec.version])
          ++ (match spec.repo with
            | some repo => ["--repo", repo]
            | none => [])
          ++ values
          ++ extra.flatMap fun entry => valueArgs entry.1 entry.2 }

/-- The command that removes what the unit runs, with the texts that show that there is nothing to
remove. -/
def removeCommand (u : ChartUnit) : Invocation × List String :=
  if u.spec.kind = .manifest then
    (u.manifestCommand "delete", ["(NotFound)", "no matches for kind"])
  else
    ({ program := "helm"
       args := ["uninstall", u.spec.releaseName, "--namespace", u.spec.id] },
      ["release: not found"])

/-! ### Steps -/

/-- Waits for the pods of each selector. -/
def awaitSelectors (u : ChartUnit) (budget : Duration) : List String → Engine Unit
  | [] => return ()
  | selector :: rest => do
    Engine.say .progress ("Waiting for pods " ++ selector ++ " in " ++ u.spec.id)
    awaitAnyPod u.spec.id selector budget
    awaitPods u.spec.id selector budget
    awaitSelectors u budget rest

/-- Waits for each resource definition. -/
def awaitCrds (budget : Duration) : List String → Engine Unit
  | [] => return ()
  | crd :: rest => do
    Engine.say .progress ("Waiting for CRD " ++ crd)
    awaitCrd crd budget
    awaitCrds budget rest

/-- Waits for the unit to be ready: first the pods, then the resource definitions. -/
def awaitReady (u : ChartUnit) : Engine Unit := do
  let budget := u.budgets.forDeployment
  u.awaitSelectors budget u.spec.ready
  awaitCrds budget u.spec.crds

/-- How failures of the manifests that follow are tried again. -/
def retryPolicy (u : ChartUnit) : RetryPolicy :=
  ⟨u.budgets.retryDelay, u.budgets.retryAttempts⟩

/-- Applies manifests that follow, one after the other, again while a failure may pass. -/
def applyFollowing (u : ChartUnit) (settings : Settings) : List String → Engine Unit
  | [] => return ()
  | manifest :: rest => do
    let text ← Engine.ofSetup (Template.fill id settings u.spec.id manifest)
    let command : Invocation :=
      { program := "kubectl", args := ["apply", "--filename", "-"], stdin := some text }
    Engine.say .detail command.line
    let _ ← Engine.runRetried u.retryPolicy command
    applyFollowing u settings rest

/-- Applies the unit, waits for it and applies what follows. -/
def apply (u : ChartUnit) (verb : Verb) (settings : Settings) (extra : List (String × String)) :
    Engine Unit := do
  let command ← Engine.ofSetup (u.applyCommand verb settings extra)
  Engine.say .detail command.line
  let _ ← Engine.runChecked command []
  u.awaitReady
  u.applyFollowing settings u.spec.postApply

/-- Says that the unit is skipped. -/
def saySkipped (u : ChartUnit) (reason : String) : Engine Unit :=
  Engine.say .exclamation ("Skipping " ++ u.spec.id ++ ": " ++ reason)

/-- Installs the unit with further values; `false` if it was skipped. -/
def installWith (u : ChartUnit) (settings : Settings) (extra : List (String × String)) :
    Engine Bool := do
  match ← Engine.ofSetup (u.skipReason settings) with
  | some reason =>
    u.saySkipped reason
    return false
  | none =>
    guardInstall u.spec.id
    Engine.say .note ("Deploying " ++ u.describe)
    createOwned u.spec.id
    u.apply .install settings extra
    Engine.say .success (u.spec.id ++ " deployed")
    return true

/-- Upgrades the unit with further values; `false` if it was skipped. -/
def upgradeWith (u : ChartUnit) (settings : Settings) (extra : List (String × String)) :
    Engine Bool := do
  match ← Engine.ofSetup (u.skipReason settings) with
  | some reason =>
    u.saySkipped reason
    return false
  | none =>
    guardUpgrade u.spec.id
    Engine.say .note ("Upgrading " ++ u.describe)
    u.apply .upgrade settings extra
    Engine.say .success (u.spec.id ++ " upgraded")
    return true

/-- Removes what the unit runs.  That there is nothing to remove is only worth a remark. -/
def removeWorkload (u : ChartUnit) : Engine Unit := do
  let (command, benign) := u.removeCommand
  Engine.say .detail command.line
  let output ← Engine.runChecked command benign
  if output.success then return ()
  else Engine.say .exclamation (u.spec.id ++ ": nothing to uninstall, continuing")

/-- Removes the unit and its namespace, if the namespace is the installer's. -/
def remove (u : ChartUnit) : Engine Unit := do
  if ← guardRemove u.spec.id then
    Engine.say .note ("Removing " ++ u.spec.id)
    u.removeWorkload
    Engine.call (.deleteNamespace u.spec.id)
    Engine.say .progress ("Waiting for namespace " ++ u.spec.id ++ " to be deleted")
    awaitNamespaceGone u.spec.id u.budgets.forNamespaceDeletion
    Engine.say .success (u.spec.id ++ " removed")
  else return ()

/-- The unit as a component. -/
def toComponent (u : ChartUnit) : Component where
  id := u.spec.id
  version := u.spec.version
  description := u.describe
  needed := u.settings
  install := fun settings => (u.installWith settings []).andThen fun _ => .done ()
  upgrade := fun settings => (u.upgradeWith settings []).andThen fun _ => .done ()
  remove := u.remove

end ChartUnit

end Groundwork
