import Groundwork.Cluster.Object
import Groundwork.Engine

/-!
# Platforms

Local and managed distributions differ in the node addresses that reach the cluster and in whether
services ever get a load balancer address.  A platform is recognised from its nodes; the checks are
made in a fixed order, each over all nodes, and what nothing recognises is generic.
-/

namespace Groundwork.Cluster

/-- A kind of cluster. -/
inductive Platform where
  | kind
  | k3s
  | ibm
  | minikube
  | generic
  deriving DecidableEq

namespace Node

/-- The value of a label. -/
def label? (n : Node) (key : String) : Option String :=
  n.labels.bind fun l => Table.get? l key

/-- Whether the provider's id of the node begins with a text. -/
def providedBy (n : Node) (scheme : String) : Bool :=
  Text.startsWith (n.providerId.getD "") scheme

end Node

namespace Platform

/-- The name of a platform. -/
def name : Platform → String
  | .kind => "kind"
  | .k3s => "k3s"
  | .ibm => "ibm"
  | .minikube => "minikube"
  | .generic => "generic"

/-- Whether a node shows that the cluster is of a kind. -/
def shownBy : Platform → Node → Bool
  | .kind, n => n.providedBy "kind://"
  | .k3s, n =>
    n.providedBy "k3s://" || n.label? "node.kubernetes.io/instance-type" == some "k3s"
      || Text.contains (n.kubeletVersion.getD "") "+k3s"
  | .ibm, n => n.providedBy "ibm://" || (n.label? "ibm-cloud.kubernetes.io/worker-id").isSome
  | .minikube, n => (n.label? "minikube.k8s.io/name").isSome || n.name == some "minikube"
  | .generic, _ => true

/-- The platforms that nodes can show, in the order in which they are looked for. -/
def candidates : List Platform := [.kind, .k3s, .ibm, .minikube]

/-- The first platform that some node shows. -/
def detect (nodes : List Node) : Platform :=
  (candidates.find? fun p => nodes.any p.shownBy).getD .generic

/-- Whether services of type LoadBalancer get an address without further set-up. -/
def hasLoadBalancer : Platform → Bool
  | .kind => false
  | .minikube => false
  | _ => true

/-- The addresses of a type, in the order of the nodes. -/
def addressesOf (type : String) (nodes : List Node) : List String :=
  (nodes.flatMap Node.addresses).filterMap fun a =>
    if a.type = type then some a.address else none

/-- The addresses that reach services from outside. -/
def externalIps (p : Platform) (nodes : List Node) : List String :=
  match p with
  | .kind => addressesOf "InternalIP" nodes
  | .k3s => addressesOf "InternalIP" nodes
  | .minikube => addressesOf "InternalIP" nodes
  | .ibm => addressesOf "ExternalIP" nodes
  | .generic =>
    let external := addressesOf "ExternalIP" nodes
    if external.isEmpty then addressesOf "InternalIP" nodes else external

/-- The facts about a cluster with these nodes and this version. -/
def facts (nodes : List Node) (version : String) : Facts :=
  let p := detect nodes
  { externalIps := p.externalIps nodes
    serverVersion := version
    platform := p.name
    hasLoadBalancer := p.hasLoadBalancer }

end Platform

/-- Finds out the facts about the cluster: first its nodes, then its version. -/
def readFacts : Engine Facts := do
  let nodes ← Engine.call .listNodes
  let version ← Engine.call .serverVersion
  return Platform.facts nodes version

end Groundwork.Cluster
