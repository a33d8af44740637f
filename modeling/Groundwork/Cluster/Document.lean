import Groundwork.Cluster.Object
import Groundwork.Json

/-!
# Objects as documents

The API server writes an object as a JSON document.  A reader takes from it what an object here
holds: a member that is missing or `null` is absent, and a member of the wrong shape makes the whole
document unreadable.  A document that names its own kind has to name the right one.
-/

namespace Groundwork.Cluster

/-! ### Members -/

namespace Document

/-- The value of a member that may be absent. -/
def optional {α : Type} (read : Json → Option α) (j : Json) (key : String) : Option (Option α) :=
  match (j.getD key).unlessNull with
  | some value => (read value).map some
  | none => some none

/-- A text that may be absent. -/
def text (j : Json) (key : String) : Option (Option String) :=
  optional Json.asString? j key

/-- A text, empty if absent. -/
def plainText (j : Json) (key : String) : Option String :=
  (text j key).map fun s => s.getD ""

/-- A list of readable items, empty if absent. -/
def items {α : Type} (read : Json → Option α) (j : Json) (key : String) : Option (List α) :=
  (optional (fun value => value.asArray?.bind (List.mapM read)) j key).map fun list => list.getD []

/-- An object; what it holds is not looked at. -/
def part (j : Json) (key : String) : Option Json :=
  (optional (fun value => value.asObject?.map fun _ => value) j key).map fun o => o.getD .null

/-- Texts by keys. -/
def textTable (j : Json) (key : String) : Option (Option (Table String String)) :=
  optional (fun value => do
    let members ← value.asObject?
    let pairs ← members.mapM fun m => m.2.asString?.map fun s => (m.1, s)
    return Table.ofList pairs) j key

/-- Whether a document is an object that does not name another kind than this one. -/
def isOfKind (j : Json) (apiVersion kind : String) : Bool :=
  j.asObject?.isSome
    && (j.get? "apiVersion").all (fun v => v.isText apiVersion)
    && (j.get? "kind").all fun v => v.isText kind

/-- What every object says of itself. -/
structure Header where
  namespaceName : Option String
  name : Option String
  labels : Option Labels

/-- The header of a document of this kind. -/
def header? (j : Json) (apiVersion kind : String) : Option Header := do
  if !isOfKind j apiVersion kind then none
  let metadata ← part j "metadata"
  return ⟨← text metadata "namespace", ← text metadata "name", ← textTable metadata "labels"⟩

end Document

open Document

/-! ### Objects -/

/-- A namespace of a document. -/
def Namespace.ofJson? (j : Json) : Option Namespace := do
  let header ← header? j "v1" "Namespace"
  let _ ← part j "spec"
  let _ ← part j "status"
  return ⟨header.name, header.labels⟩

/-- What a container is doing, of its status. -/
def ContainerState.ofJson? (j : Json) : Option ContainerState := do
  let _ ← j.asObject?
  let state ← part j "state"
  return ⟨!(← part state "waiting").isNull, !(← part state "running").isNull⟩

/-- The status of a pod. -/
def PodStatus.ofJson? (j : Json) : Option PodStatus := do
  let _ ← j.asObject?
  return ⟨← text j "phase", ← items ContainerState.ofJson? j "containerStatuses",
    ← items ContainerState.ofJson? j "initContainerStatuses"⟩

/-- A pod of a document. -/
def Pod.ofJson? (j : Json) : Option Pod := do
  let header ← header? j "v1" "Pod"
  let _ ← part j "spec"
  return ⟨header.namespaceName, header.name, header.labels,
    ← optional PodStatus.ofJson? j "status"⟩

/-- An event of a document. -/
def Event.ofJson? (j : Json) : Option Event := do
  let header ← header? j "v1" "Event"
  let object ← part j "involvedObject"
  return ⟨header.namespaceName, ← text object "name", ← text j "reason", ← text j "message"⟩

/-- A condition of an object. -/
def Condition.ofJson? (j : Json) : Option Condition := do
  let _ ← j.asObject?
  return ⟨← plainText j "type", ← plainText j "status", ← text j "message"⟩

/-- The definition of a kind of resource of a document. -/
def Crd.ofJson? (j : Json) : Option Crd := do
  let header ← header? j "apiextensions.k8s.io/v1" "CustomResourceDefinition"
  let _ ← part j "spec"
  let status ← part j "status"
  return ⟨header.name, ← items Condition.ofJson? status "conditions"⟩

/-- A job of a document. -/
def Job.ofJson? (j : Json) : Option Job := do
  let header ← header? j "batch/v1" "Job"
  let _ ← part j "spec"
  let status ← part j "status"
  return ⟨header.namespaceName, header.name, ← items Condition.ofJson? status "conditions"⟩

/-- An entry point of a load balancer. -/
def EntryPoint.ofJson? (j : Json) : Option EntryPoint := do
  let _ ← j.asObject?
  return ⟨← text j "ip", ← text j "hostname"⟩

/-- A service of a document. -/
def Service.ofJson? (j : Json) : Option Service := do
  let header ← header? j "v1" "Service"
  let _ ← part j "spec"
  let status ← part j "status"
  let balancer ← part status "loadBalancer"
  return ⟨header.namespaceName, header.name, ← items EntryPoint.ofJson? balancer "ingress"⟩

/-- An address of a node. -/
def NodeAddress.ofJson? (j : Json) : Option NodeAddress := do
  let _ ← j.asObject?
  return ⟨← plainText j "type", ← plainText j "address"⟩

/-- A node of a document. -/
def Node.ofJson? (j : Json) : Option Node := do
  let header ← header? j "v1" "Node"
  let spec ← part j "spec"
  let status ← part j "status"
  let info ← part status "nodeInfo"
  return ⟨header.name, header.labels, ← text spec "providerID",
    ← items NodeAddress.ofJson? status "addresses", ← text info "kubeletVersion"⟩

/-! ### Lists and versions -/

namespace Document

/-- The items of a list.  The list has to be there, but it may be `null`; what the document says of
itself may be missing, but not be `null`. -/
def list? {α : Type} (read : Json → Option α) (j : Json) : Option (List α) := do
  if (j.get? "metadata").any fun m => m.asObject?.isNone then none
  let _ ← j.get? "items"
  items read j "items"

/-- The members of a version. -/
def versionMembers : List String :=
  ["buildDate", "compiler", "gitCommit", "gitTreeState", "gitVersion", "goVersion", "major",
    "minor", "platform"]

/-- The version that a server says it has. -/
def version? (j : Json) : Option String := do
  let _ ← j.asObject?
  let _ ← versionMembers.mapM (plainText j)
  plainText j "gitVersion"

end Document

end Groundwork.Cluster
