import Groundwork.Cluster.Document
import Groundwork.Cluster.Scenario
import Groundwork.DeployError.Document

/-!
# Scenarios as documents

A scenario is written down as an object with lists of what the cluster holds, a timetable and the
faults.  Each object of the cluster is either a document as the API server writes it, or a specimen:
an object with a member `mock` that names its sort.
-/

namespace Groundwork.Cluster

/-! ### Objects -/

namespace Specimen

/-- Whether a document is that of a specimen. -/
def isSpecimen (j : Json) : Bool :=
  (j.text? "mock").isSome

/-- The labels of a specimen. -/
def labelsOf (j : Json) : Labels :=
  Table.ofList (j.textTableAt "labels")

/-- The pod of a document. -/
def podOf (j : Json) : Pod :=
  let space := j.textAt "namespace"
  let name := j.textAt "name"
  match j.text? "mock" with
  | none => (Pod.ofJson? j).getD {}
  | some "pod" => pod space name (labelsOf j) (j.textAt "phase")
  | some "waiting_pod" => waitingPod space name (labelsOf j)
  | some _ => runningPod space name (labelsOf j)

/-- The address of a node, written as its type and the address. -/
def addressOf : Json → Option NodeAddress
  | .array [.string type, .string address] => some ⟨type, address⟩
  | _ => none

/-- The node of a document. -/
def nodeOf (j : Json) : Node :=
  if isSpecimen j then
    node (j.textAt "name") (labelsOf j) (j.textAt "provider_id")
      ((j.itemsAt "addresses").filterMap addressOf)
  else (Node.ofJson? j).getD {}

/-- The definition of a kind of resource of a document. -/
def crdOf (j : Json) : Crd :=
  if isSpecimen j then crd (j.textAt "name") (j.flagAt "established")
  else (Crd.ofJson? j).getD {}

/-- The job of a document. -/
def jobOf (j : Json) : Job :=
  if isSpecimen j then job (j.textAt "namespace") (j.textAt "name") (j.text? "condition")
  else (Job.ofJson? j).getD {}

/-- The event of a document. -/
def eventOf (j : Json) : Event :=
  if isSpecimen j then
    event (j.textAt "namespace") (j.textAt "object") (j.textAt "reason") (j.textAt "message")
  else (Event.ofJson? j).getD {}

/-- The address of the load balancer of a specimen. -/
def balancerIp (j : Json) : Option String :=
  if j.textAt "mock" = "load_balancer" then some (j.textAt "ip") else none

/-- The service of a document. -/
def serviceOf (j : Json) : Service :=
  if isSpecimen j then service (j.textAt "namespace") (j.textAt "name") (balancerIp j)
  else (Service.ofJson? j).getD {}

end Specimen

/-! ### Scenarios -/

open Specimen

/-- The objects of a document.  Events that are no specimens come later than the others, and
services that are none stand in front of the others. -/
def Additions.ofJson (j : Json) : Additions :=
  let (events, laterEvents) := (j.itemsAt "events").partition isSpecimen
  let (services, shownServices) := (j.itemsAt "services").partition isSpecimen
  { namespaces := (j.itemsAt "namespaces").map fun n => (n.textAt "name", labelsOf n)
    deletionLag := (j.getD "deletion_lag").asInt?.map Int.toNat
    externalIps := j.textsAt "external_ips"
    nodes := (j.itemsAt "nodes").map nodeOf
    pods := (j.itemsAt "pods").map podOf
    crds := (j.itemsAt "crds").map crdOf
    jobs := (j.itemsAt "jobs").map jobOf
    events := events.map eventOf
    services := services.map fun s => (s.textAt "namespace", s.textAt "name", balancerIp s)
    laterEvents := laterEvents.map eventOf
    shownServices := shownServices.map serviceOf
    shownPods := (j.itemsAt "replace_pods").map podOf
    version := j.text? "server_version" }

/-- A number that is 1 where it is not given. -/
def oneAt (j : Json) (key : String) : Nat :=
  if (j.getD key).isNull then 1 else j.natAt key

/-- The faults of a list. -/
def Fault.listOf (j : Json) (key : String) : List Fault :=
  (j.itemsAt key).filterMap fun f => do
    let trouble ←
      if f.flagAt "missing" then some Trouble.findsNothing
      else (DeployError.ofJson? (f.getD "error")).map Trouble.fails
    return { call := f.textAt "call", first := oneAt f "from", count := oneAt f "count", trouble }

/-- The scenario of a document. -/
def Scenario.ofJson (j : Json) : Scenario :=
  let empty : Scenario :=
    { timetable := (j.itemsAt "schedule").map fun e =>
        (e.natAt "at_ms" * 1000000, Additions.ofJson (e.getD "add"))
      faults := Fault.listOf j "faults" }
  empty.add (Additions.ofJson j)

end Groundwork.Cluster
