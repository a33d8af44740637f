import Groundwork.Cluster.Platform
import Groundwork.CommandLine.Display
import Groundwork.CommandLine.SystemDomain
import Groundwork.Installer
import Groundwork.Resolution

/-!
# The commands

What each command does, as a script of the engine's actions that fails with a diagnosis.
-/

namespace Groundwork.CommandLine

open Cluster

/-- A script of a command. -/
abbrev Run (α : Type) : Type := Script Action Action.Answer Diagnosis α

/-- The terminal that a command is started from. -/
structure Terminal where
  colors : Bool := false
  /-- What the user types. -/
  input : List UInt8 := []

namespace Run

/-- A script of the engine within a command. -/
def engine {α : Type} (script : Engine α) : Run α :=
  script.mapError Diagnosis.ofDeploy

/-- Tells the user something. -/
def say (level : Level) (text : String) : Run Unit :=
  .ask (.say level text) fun _ => .done ()

/-- Prints a text as it is. -/
def print (text : String) : Run Unit :=
  .ask (.print text) fun _ => .done ()

/-- Connects to the cluster. -/
def connect : Run Unit := do
  engine (.ask .connect Script.ofExcept)
  say .detail "Connected to cluster"

end Run

open Run

/-! ### Settings of a run -/

/-- The sources of a run.  Flags come first; then the user is asked, or the defaults are taken.  A
setting without a value at the end is an error. -/
def sources (facts : Facts) (flags : Flags) : Option Console → List Source
  | some console => [.flags flags, .dialogue console (some facts), .completeness]
  | none => [.flags flags, .dynamic facts, .defaults, .completeness]

/-- What sources have written to the user. -/
def written : List Source → List UInt8
  | [] => []
  | .dialogue console _ :: rest => console.written ++ written rest
  | _ :: rest => written rest

/-- What stops a run whose settings have been through the sources. -/
def refuse {σ : Type} (pass : Pass σ) : Except Diagnosis Unit :=
  match pass.error with
  | some e => .error (Diagnosis.ofDeploy (.setup e))
  | none => requireDomain pass.settings

/-- Gives values to the settings and shows them.  Of settings that cannot be listed only the title is
shown, and there is nothing to go on with. -/
def settle (t : Terminal) (facts : Facts) (flags : Flags) (interactive : Bool) (ss : Settings) :
    Run (Option Settings) := do
  let console := if interactive then some { unread := t.input } else none
  let pass := (attachDefaults ss).resolve (sources facts flags console)
  if interactive then print (Text.decodeLossy (written pass.sources))
  Script.ofExcept (refuse pass)
  match pass.settings.listing? with
  | some _ =>
    print (Display.settings t.colors pass.settings)
    return some pass.settings
  | none =>
    print (Display.settingsTitle t.colors)
    return none

/-! ### Commands -/

/-- How a command ends if there is nothing to diagnose. -/
inductive Ending where
  /-- Everything is done. -/
  | finished
  /-- The program broke off in the middle of its work. -/
  | brokenOff
  deriving DecidableEq, Inhabited

/-- Installs a platform. -/
def install (t : Terminal) (i : Installer) (flags : Flags) (interactive : Bool) : Run Ending := do
  connect
  let facts ← engine readFacts
  say .detail ("Kubernetes " ++ facts.serverVersion)
  match ← settle t facts flags interactive i.settings with
  | none => return .brokenOff
  | some ss =>
    say .note "Installing platform"
    engine (Installer.install { i with settings := ss })
    say .success "Platform installed"
    match ss.getString systemDomain none with
    | .ok domain => say .note ("Services are exposed under " ++ domain)
    | .error _ => pure ()
    return .finished

/-- Upgrades a platform. -/
def upgrade (t : Terminal) (i : Installer) (flags : Flags) (interactive : Bool) : Run Ending := do
  connect
  let facts ← engine readFacts
  match ← settle t facts flags interactive i.settings with
  | none => return .brokenOff
  | some ss =>
    say .note "Upgrading platform"
    engine (Installer.upgrade { i with settings := ss })
    say .success "Platform upgraded"
    return .finished

/-- The question before everything is removed. -/
def removalQuestion (units : Nat) : String :=
  "Remove " ++ Text.decimal units ++ " platform units and their namespaces?"

/-- Asks before everything is removed; anything but a yes ends the command. -/
def askRemoval (t : Terminal) (units : Nat) : Run Unit := do
  let (answer, console) := confirm (removalQuestion units) { unread := t.input }
  print (Text.decodeLossy console.written)
  match answer with
  | .ok true => return ()
  | .ok false => throw .cancelled
  | .error fault => throw (.io fault.message)

/-- Removes a platform. -/
def uninstall (t : Terminal) (i : Installer) (yes : Bool) : Run Unit := do
  if !yes then askRemoval t i.components.length
  connect
  say .note "Removing platform"
  engine i.uninstall
  say .success "Platform removed"

/-! ### Information -/

/-- Says that the cluster does not answer. -/
def sayUnreachable (reason : String) : Run Unit :=
  say .exclamation ("Cluster unreachable: " ++ reason)

/-- Goes on without the cluster if something on it fails, and says so. -/
def unlessUnreachable {ε α : Type} (reason : ε → String)
    (script : Script Action Action.Answer ε α) : Run (Option α) :=
  script.handle fun
    | .ok a => .done (some a)
    | .error e => (sayUnreachable (reason e)).andThen fun _ => .done none

/-- Connects and takes a first look. -/
def firstContact : Run (Option Facts) := do
  match ← unlessUnreachable Diagnosis.message connect with
  | some _ => unlessUnreachable DeployError.message readFacts
  | none => return none

/-- Lists units with their states, and without them from the first failure on. -/
def listUnits (colors : Bool) : Bool → List Component → Run Unit
  | _, [] => return ()
  | false, c :: rest => do
    print (Display.unit colors c none)
    listUnits colors false rest
  | true, c :: rest => do
    let known ← unlessUnreachable DeployError.message (NamespaceState.read c.id)
    print (Display.unit colors c known)
    listUnits colors known.isSome rest

/-- Shows the facts about the cluster, if there is one, and the units. -/
def info (t : Terminal) (i : Installer) : Run Unit := do
  let facts ← firstContact
  match facts with
  | some f => print (Display.facts t.colors f)
  | none => pure ()
  print (Display.line (Style.bold.apply t.colors "Platform units"))
  listUnits t.colors facts.isSome i.components

end Groundwork.CommandLine
