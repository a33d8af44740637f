import Groundwork.Catalog
import Groundwork.Duration.Human
import Groundwork.Yaml.Decode
import Groundwork.Yaml.Node.Grammar

/-!
# The text of a catalog

Which fields a catalog has in its document, and what is meant when one is missing.  `Catalog.parse`
reads a text and checks the rules.
-/

namespace Groundwork.Catalog

open Yaml (Node Decode)
open Yaml.Decode

/-! ### Fields -/

/-- A number of 32 bits. -/
def word32 (n : Node) : Decode UInt32 := do
  return (← natUpTo 4294967295 n).toUInt32

/-- A duration in words. -/
def duration (n : Node) : Decode Duration := do
  match Duration.parse? (← text n) with
  | some d => return d
  | none => throw "expected a duration"

/-- The names of the kinds of values. -/
def kindNames : List (String × Kind) :=
  [("bool", .boolean), ("boolean", .boolean), ("string", .string), ("int", .integer),
    ("integer", .integer)]

/-- The names of the kinds of units. -/
def unitKindNames : List (String × UnitKind) :=
  [("chart", .chart), ("manifest", .manifest), ("ingress", .ingress)]

/-- A value that is an integer of 64 bits. -/
def intValue (i : Int) : Decode Value :=
  if -9223372036854775808 ≤ i ∧ i ≤ 9223372036854775807 then return .int (Int64.ofInt i)
  else throw "a number that is too large"

/-- What a scalar without quotes or tag means as a value. -/
def plainValue (s : String) : Decode Value :=
  match Yaml.Plain.bool? s, Yaml.Plain.int? s with
  | some b, _ => return .bool b
  | none, some i => intValue i
  | none, none =>
    if s.isEmpty || Yaml.Plain.isNull s then throw "expected a value"
    else if Yaml.Plain.isFloat s then throw "a number that is no integer"
    else return .string s

/-- A typed value. -/
def typedValue (n : Node) : Decode Value := do
  match ← follow n with
  | .scalar none s style => if style = .plain then plainValue s else return .string s
  | .scalar (some tag) s _ =>
    if tag = coreTag "bool" then
      match Yaml.Plain.bool? s with
      | some b => return .bool b
      | none => throw "expected true or false"
    else if tag = coreTag "int" then
      match Yaml.Plain.int? s with
      | some i => intValue i
      | none => throw "expected a number"
    else if tag = coreTag "float" || tag = coreTag "null" || (ownTag? (some tag)).isSome then
      throw "expected a value"
    else return .string s
  | _ => throw "expected a value"

/-- The declaration of a setting. -/
def settingSpecOf (n : Node) : Decode SettingSpec := do
  let fs ← fields ["name", "kind", "default", "description", "private"] n
  return {
    name := ← fs.get "name" text
    kind := ← fs.get "kind" (choice kindNames)
    default := ← fs.getD "default" (optional typedValue) none
    description := ← fs.getD "description" text ""
    isPrivate := ← fs.getD "private" bool false }

/-- A unit. -/
def unitSpecOf (n : Node) : Decode UnitSpec := do
  let fs ← fields ["id", "version", "description", "kind", "chart", "repo", "release", "manifest",
    "set", "options", "ready", "crds", "post_apply", "skip_option", "services"] n
  return {
    id := ← fs.get "id" text
    version := ← fs.getD "version" text ""
    description := ← fs.getD "description" text ""
    kind := ← fs.getD "kind" (choice unitKindNames) .chart
    chart := ← fs.getD "chart" (optional text) none
    repo := ← fs.getD "repo" (optional text) none
    release := ← fs.getD "release" (optional text) none
    manifest := ← fs.getD "manifest" (optional text) none
    values := ← fs.getD "set" textMap []
    settings := ← fs.getD "options" (list settingSpecOf) []
    ready := ← fs.getD "ready" (list text) []
    crds := ← fs.getD "crds" (list text) []
    postApply := ← fs.getD "post_apply" (list text) []
    skipSetting := ← fs.getD "skip_option" (optional text) none
    services := ← fs.getD "services" (list text) [] }

/-- The budgets. -/
def budgetsOf (n : Node) : Decode Budgets := do
  let fs ← fields ["multiplier", "deployment", "namespace_deletion", "retry_delay",
    "retry_attempts", "load_balancer"] n
  let usual : Budgets := {}
  return {
    multiplier := ← fs.getD "multiplier" word32 usual.multiplier
    deployment := ← fs.getD "deployment" duration usual.deployment
    namespaceDeletion := ← fs.getD "namespace_deletion" duration usual.namespaceDeletion
    retryDelay := ← fs.getD "retry_delay" duration usual.retryDelay
    retryAttempts := ← fs.getD "retry_attempts" word32 usual.retryAttempts
    loadBalancer := ← fs.getD "load_balancer" duration usual.loadBalancer }

/-- A catalog. -/
def ofNode (n : Node) : Decode Catalog := do
  let fs ← fields ["timeouts", "units"] n
  return {
    budgets := ← fs.getD "timeouts" budgetsOf {}
    units := ← fs.get "units" (list unitSpecOf) }

/-! ### Texts -/

/-- The catalog that a text describes, whether it keeps the rules or not. -/
def read (s : String) : Except SetupError Catalog :=
  match Yaml.Document.ofText s with
  | .error reason => .error (.unreadable reason)
  | .ok document =>
    match document.decode ofNode with
    | .error reason => .error (.unreadable reason)
    | .ok c => .ok c

/-- The catalog that a text describes, if it keeps the rules. -/
def parse (s : String) : Except SetupError Catalog :=
  match read s with
  | .error e => .error e
  | .ok c =>
    match c.check with
    | .ok _ => .ok c
    | .error fault => .error (.catalog fault)

end Groundwork.Catalog
