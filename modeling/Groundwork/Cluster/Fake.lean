import Groundwork.Cluster.Call
import Groundwork.Cluster.Selector
import Groundwork.Cluster.Specimen
import Groundwork.DeployError

/-!
# A cluster in memory

A cluster that holds its objects in memory and answers calls from them.  A deleted namespace may
stay visible for some further looks at it; until then it cannot be created again.
-/

namespace Groundwork.Cluster

/-- How often the cluster has been called, by kinds of calls. -/
structure CallCounts where
  gets : Nat := 0
  lists : Nat := 0
  creates : Nat := 0
  deletes : Nat := 0
  deriving DecidableEq, Inhabited

/-- A cluster in memory. -/
structure Fake where
  namespaces : Table String Namespace := []
  /-- The namespaces that are going away: how many more looks each stays visible. -/
  terminating : Table String Nat := []
  pods : List Pod := []
  events : List Event := []
  crds : Table String Crd := []
  jobs : Table (String × String) Job := []
  services : Table (String × String) Service := []
  version : String := "v1.31.0"
  nodes : List Node := []
  /-- How many looks a deleted namespace stays visible. -/
  deletionLag : Nat := 0
  /-- The namespaces created so far, in order. -/
  created : List String := []
  /-- The namespaces deleted so far, in order. -/
  deleted : List String := []
  counts : CallCounts := {}
  deriving Inhabited

namespace Fake

/-! ### Filling -/

/-- Adds a namespace with labels. -/
def addNamespace (f : Fake) (name : String) (labels : Labels) : Fake :=
  { f with namespaces := Table.put name ⟨some name, some labels⟩ f.namespaces }

/-- Adds a node. -/
def addNode (f : Fake) (node : Node) : Fake :=
  { f with nodes := f.nodes ++ [node] }

/-- Adds one plain node for each address, with that address to the outside. -/
def addExternalIps (f : Fake) (ips : List String) : Fake :=
  { f with nodes := f.nodes ++ ips.mapIdx fun i ip =>
      Specimen.node ("node-" ++ Text.decimal i) [] "" [⟨"ExternalIP", ip⟩] }

/-- Adds a pod. -/
def addPod (f : Fake) (pod : Pod) : Fake :=
  { f with pods := f.pods ++ [pod] }

/-- Adds an event. -/
def addEvent (f : Fake) (event : Event) : Fake :=
  { f with events := f.events ++ [event] }

/-- Adds the definition of a kind of resource under its name. -/
def addCrd (f : Fake) (crd : Crd) : Fake :=
  { f with crds := Table.put (crd.name.getD "") crd f.crds }

/-- Adds a job under its namespace and name. -/
def addJob (f : Fake) (job : Job) : Fake :=
  { f with jobs := Table.put (job.namespaceName.getD "", job.name.getD "") job f.jobs }

/-- Adds a service, with the address of a load balancer if there is one. -/
def addService (f : Fake) (namespaceName name : String) (ip : Option String) : Fake :=
  let service := Specimen.service namespaceName name ip
  { f with services := Table.put (namespaceName, name) service f.services }

/-! ### Counting -/

/-- Notes a call in the counts. -/
def count (f : Fake) (c : Call) : Fake :=
  let n := f.counts
  { f with counts := match c with
    | .createNamespace _ _ => { n with creates := n.creates + 1 }
    | .deleteNamespace _ => { n with deletes := n.deletes + 1 }
    | .listPods _ _ => { n with lists := n.lists + 1 }
    | .listEvents _ _ => { n with lists := n.lists + 1 }
    | .listNodes => { n with lists := n.lists + 1 }
    | .serverVersion => n
    | _ => { n with gets := n.gets + 1 } }

/-! ### Namespaces -/

/-- One more look at a namespace: if it is going away, it stays for one look less, and in the end
it is gone. -/
def look (f : Fake) (name : String) : Fake :=
  match Table.get? f.terminating name with
  | none => f
  | some 0 =>
    { f with
      terminating := Table.erase f.terminating name
      namespaces := Table.erase f.namespaces name }
  | some (n + 1) => { f with terminating := Table.put name n f.terminating }

/-- Creates a namespace, unless one of that name is visible. -/
def create (f : Fake) (name : String) (labels : Labels) : Except DeployError Unit × Fake :=
  if Table.has f.namespaces name then
    (.error (.cluster ("namespaces \"" ++ name ++ "\" already exists")), f)
  else (.ok (), { f.addNamespace name labels with created := f.created ++ [name] })

/-- Deletes a namespace, at once or after some more looks; none is needed to be there. -/
def delete (f : Fake) (name : String) : Fake :=
  if Table.has f.namespaces name then
    let f := { f with deleted := f.deleted ++ [name] }
    if f.deletionLag = 0 then { f with namespaces := Table.erase f.namespaces name }
    else { f with terminating := Table.put name f.deletionLag f.terminating }
  else f

/-! ### Calls -/

/-- Answers a call. -/
def answer (c : Call) (f : Fake) : Except DeployError c.Found × Fake :=
  let f := f.count c
  match c with
  | .getNamespace name =>
    let f := f.look name
    (.ok (Table.get? f.namespaces name), f)
  | .createNamespace name labels => f.create name labels
  | .deleteNamespace name => (.ok (), f.delete name)
  | .getPod namespaceName name =>
    (.ok (f.pods.find? fun p => p.namespaceName = some namespaceName && p.name = some name), f)
  | .listPods namespaceName selector =>
    (.ok (f.pods.filter fun p =>
      p.namespaceName = some namespaceName && Selector.accepts selector p.labels), f)
  | .listEvents namespaceName object =>
    (.ok (f.events.filter fun e =>
      e.namespaceName = some namespaceName && e.object = some object), f)
  | .getCrd name => (.ok (Table.get? f.crds name), f)
  | .getJob namespaceName name => (.ok (Table.get? f.jobs (namespaceName, name)), f)
  | .getService namespaceName name => (.ok (Table.get? f.services (namespaceName, name)), f)
  | .serverVersion => (.ok f.version, f)
  | .listNodes => (.ok f.nodes, f)

end Fake

end Groundwork.Cluster
