import Groundwork.DeployError
import Groundwork.Json.Member

/-!
# Errors as documents

How errors are written down for rehearsals: an object whose member `kind` has the word for the sort
of the error, with one member for each part of it.
-/

namespace Groundwork

/-! ### Errors of the setup -/

/-- The word for a sort of error of the setup. -/
def SetupError.word : SetupError → String
  | .missing .. => "MissingOption"
  | .unknown .. => "UnknownOption"
  | .wrongKind .. => "WrongKind"
  | .invalidValue .. => "InvalidValue"
  | .input .. => "Input"
  | .catalog .. => "InvalidCatalog"
  | .unreadable .. => "YamlParse"
  | .io .. => "Io"

/-- The kind of a name. -/
def Kind.ofName? (s : String) : Option Kind :=
  [Kind.boolean, .string, .integer].find? fun k => k.name = s

/-- The scope of a unit's id, or the shared one. -/
def Scope.ofId? : Option String → Scope
  | none => .shared
  | some id => .unit id

/-- The error of the setup that a document describes. -/
def SetupError.ofJson? (j : Json) : Option SetupError :=
  let name := j.textAt "name"
  let message := j.textAt "message"
  let kind? (key : String) : Option Kind := Kind.ofName? (j.textAt key)
  match j.textAt "kind" with
  | "MissingOption" => some (.missing name (Scope.ofId? (j.text? "scope")))
  | "UnknownOption" => some (.unknown name)
  | "WrongKind" => return .wrongKind name (← kind? "expected") (← kind? "actual")
  | "InvalidValue" => (kind? "value_kind").map (.invalidValue name (j.textAt "value"))
  | "Input" => some (.input name (.other message))
  | "InvalidCatalog" => some (.catalog (.other message))
  | "YamlParse" => some (.unreadable "")
  | "Io" => some (.io (.other message))
  | _ => none

/-! ### Errors of the engine -/

namespace DeployError

/-- The word for a sort of error of the engine. -/
def word : DeployError → String
  | .api .. => "Api"
  | .namespacePresent .. => "NamespacePresent"
  | .namespaceAbsent .. => "NamespaceNotPresent"
  | .namespaceForeign .. => "NamespaceNotOwned"
  | .setup .. => "Option"
  | .command .. => "Command"
  | .timeout .. => "Timeout"
  | .podNotReady .. => "PodNotReady"
  | .loadBalancerPending .. => "LoadBalancerPending"
  | .noPods .. => "NoPods"
  | .jobFailed .. => "JobFailed"
  | .inUnit .. => "Unit"
  | .uninstall .. => "Uninstall"
  | .cancelled => "Cancelled"
  | .cluster .. => "Cluster"
  | .io .. => "Io"

/-- A time in nanoseconds, or the longest one. -/
def timeAt (j : Json) (key : String) : Duration :=
  match j.textAt key with
  | "max" => .max
  | s => .ofNanos (s.toNat?.getD 0)

/-- The error of the engine that a document describes; errors within errors go down to `depth`. -/
def ofJsonWithin : Nat → Json → Option DeployError
  | 0, _ => none
  | depth + 1, j =>
    let space := j.textAt "namespace"
    let message := j.textAt "message"
    let source (_ : Unit) : Option DeployError := ofJsonWithin depth (j.getD "source")
    match j.textAt "kind" with
    | "Api" =>
      some (.api (.refused
        { status := j.textAt "status", message, reason := j.textAt "reason"
          code := j.intAt "code" }))
    | "NamespacePresent" => some (.namespacePresent space)
    | "NamespaceNotPresent" => some (.namespaceAbsent space)
    | "NamespaceNotOwned" => some (.namespaceForeign space)
    | "Option" => (SetupError.ofJson? (j.getD "source")).map .setup
    | "Command" => some (.command (j.textAt "command") (j.intAt "code") (j.textAt "output"))
    | "Timeout" => some (.timeout (timeAt j "after_ns"))
    | "PodNotReady" => (source ()).map (.podNotReady (j.textAt "pod") space (j.textAt "events"))
    | "LoadBalancerPending" =>
      some (.loadBalancerPending space (j.textAt "service") (timeAt j "after_ns"))
    | "NoPods" => some (.noPods space (j.textAt "selector"))
    | "JobFailed" => some (.jobFailed space (j.textAt "name") message)
    | "Unit" => (source ()).map (.inUnit (j.textAt "id"))
    | "Uninstall" => ((j.itemsAt "failures").mapM (ofJsonWithin depth)).map .uninstall
    | "Cancelled" => some .cancelled
    | "Cluster" => some (.cluster message)
    | "Io" => some (.io (.other message))
    | _ => none

/-- The error of the engine that a document describes. -/
def ofJson? (j : Json) : Option DeployError := ofJsonWithin 1000 j

end DeployError

end Groundwork
