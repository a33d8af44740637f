import Groundwork.CommandLine.CatalogChoice
import Groundwork.CommandLine.Commands
import Groundwork.CommandLine.Help
import Groundwork.Engine.Rehearsal

/-!
# The program

From the arguments to the exit code.  The catalog is loaded before the arguments are read, since it
declares flags.  A broken catalog only costs these flags, until a command needs it: help and the
version are shown anyway, and wrong arguments are blamed on the catalog.
-/

namespace Groundwork.CommandLine

/-- What the program is started with. -/
structure Start where
  /-- The arguments after the name of the program. -/
  arguments : List String
  /-- The environment. -/
  environment : Table String String := []
  terminal : Terminal := {}

/-- How the program ends. -/
structure Finish where
  code : Nat
  /-- What is printed at the end. -/
  printed : String := ""
  /-- What is reported as an error. -/
  reported : String := ""

namespace Finish

/-- The report of a diagnosis. -/
def report (d : Diagnosis) : String :=
  let help := match d.help with
    | some text => "  help: " ++ text ++ "\n"
    | none => ""
  d.code ++ "\n\n  × " ++ d.message ++ "\n" ++ help

/-- The end after an error. -/
def ofDiagnosis (colors : Bool) (d : Diagnosis) : Finish :=
  if d.isCancelled then
    { code := 0
      printed := Style.yellow.apply colors "⚠" ++ " Cancelled, nothing was changed\n" }
  else { code := d.exitCode, reported := report d }

/-- The end of a command. -/
def ofOutcome (colors : Bool) : Except Diagnosis Ending → Finish
  | .ok .finished => { code := 0 }
  | .ok .brokenOff => { code := 101 }
  | .error d => ofDiagnosis colors d

end Finish

/-- A command that can be started. -/
structure Ready where
  verbose : Bool
  /-- Whether the user may be asked something. -/
  asks : Bool
  script : Run Ending

/-- The catalog with the multiplier that the arguments give. -/
def withMultiplier (c : Catalog) : Option UInt32 → Catalog
  | some m => { c with budgets := { c.budgets with multiplier := m } }
  | none => c

/-- The installer of a catalog with its settings. -/
def gatheredInstaller (c : Catalog) : Except Diagnosis Installer :=
  match Installer.ofCatalog c with
  | .ok i => .ok i.gather
  | .error e => .error (Diagnosis.ofDeploy (.setup e))

/-- The catalog and the settings that it declares. -/
def loadDeclared (readText : String → Except IoFault String) (s : Start) :
    Except Diagnosis (Catalog × Settings) := do
  let c ← loadCatalog readText (configPath? s.environment s.arguments)
  let i ← gatheredInstaller c
  return (c, i.settings)

/-- The command with its values, ready to be started. -/
def ready (t : Terminal) (c : Catalog) (declared : Settings) (command : CommandName)
    (leading own : OptionValues) : Except Diagnosis Ready := do
  let i ← gatheredInstaller
    (withMultiplier c ((commonValue? leading own "timeout-multiplier").bind multiplier?))
  let isOn (name : String) : Bool := Table.has own.taken name
  let script := match command with
    | .install => install t i (givenFlags declared own) (isOn "interactive")
    | .upgrade => upgrade t i (givenFlags declared own) (isOn "interactive")
    | .uninstall => do
      uninstall t i (isOn "yes")
      return .finished
    | .info => do
      info t i
      return .finished
  return {
    verbose := (commonValue? leading own "verbose").isSome
    asks := isOn "interactive" || (command = .uninstall && !isOn "yes")
    script }

/-- What the program does: it ends at once, or it starts a command. -/
def start (readText : String → Except IoFault String) (s : Start) : Except Finish Ready :=
  let loaded := loadDeclared readText s
  let declared := match loaded with
    | .ok (_, ss) => ss
    | .error _ => ∅
  let blamed (d : Diagnosis) : Finish := Finish.ofDiagnosis s.terminal.colors d
  match wish declared s.environment s.arguments, loaded with
  | .ok (.help topic), _ => .error { code := 0, printed := helpText declared s.environment topic }
  | .ok (.version command), _ => .error { code := 0, printed := versionText command }
  | _, .error d => .error (blamed d)
  | .error fault, .ok _ => .error { code := 2, reported := usageText s.environment fault }
  | .ok (.run command leading own), .ok (c, declared) =>
    (ready s.terminal c declared command leading own).mapError blamed

/-- Plays the program in a rehearsal: how it ends, everything it has printed, and the rehearsal
afterwards.  There is no end if a wait does not come to its own. -/
def rehearse (readText : String → Except IoFault String) (s : Start) (r : Rehearsal) :
    Option Finish × Rehearsal :=
  match start readText s with
  | .error finish => (some finish, r)
  | .ok ready =>
    let (outcome, r) := { r with ui := { verbose := ready.verbose } }.play ready.script
    (outcome.map fun o =>
      let finish := Finish.ofOutcome s.terminal.colors o
      { finish with printed := String.join r.printed ++ finish.printed }, r)

end Groundwork.CommandLine
