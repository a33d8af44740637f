import Groundwork.Catalog.Builtin
import Groundwork.Catalog.File
import Groundwork.CommandLine.Diagnosis
import Groundwork.Table

/-!
# Which catalog is used

The catalog decides which flags there are, so it is looked for in the arguments before they are
read: the first `--config` counts, and where there is none, the variable `PLINTH_CONFIG`.
-/

namespace Groundwork.CommandLine

/-- The variable that names the catalog. -/
def configVariable : String := "PLINTH_CONFIG"

/-- The path of the catalog, given the arguments after the name of the program. -/
def configPath? (environment : Table String String) : List String → Option String
  | [] => Table.get? environment configVariable
  | argument :: rest =>
    if argument = "--" then Table.get? environment configVariable
    else if argument = "--config" then rest.head?
    else match Text.after? argument "--config=" with
      | some path => some path
      | none => configPath? environment rest

/-- The words for a catalog that cannot be read. -/
def unreadableFile (path : String) (fault : IoFault) : String :=
  "cannot read " ++ path ++ ": " ++ fault.message

/-- The catalog at a path, or the built-in one, given how files are read. -/
def loadCatalog (readText : String → Except IoFault String) :
    Option String → Except Diagnosis Catalog
  | none => .ok Catalog.builtin
  | some path =>
    match Catalog.parseFile path (readText path) with
    | .ok c => .ok c
    | .error (.io fault) => .error (.config (unreadableFile path fault))
    | .error e => .error (Diagnosis.ofSetup e)

end Groundwork.CommandLine
