import Groundwork.Cluster.Object

/-!
# Calls to a cluster

Everything the engine asks of a cluster, with what it finds.
-/

namespace Groundwork.Cluster

/-- A request to a cluster. -/
inductive Call where
  | getNamespace (name : String)
  | createNamespace (name : String) (labels : Labels)
  /-- A namespace that is not there counts as deleted. -/
  | deleteNamespace (name : String)
  | getPod (namespaceName name : String)
  | listPods (namespaceName selector : String)
  /-- The events about the object with this name. -/
  | listEvents (namespaceName object : String)
  | getCrd (name : String)
  | getJob (namespaceName name : String)
  | getService (namespaceName name : String)
  | serverVersion
  | listNodes
  deriving DecidableEq

namespace Call

/-- What a call finds. -/
abbrev Found : Call → Type
  | .getNamespace _ => Option Namespace
  | .createNamespace _ _ => Unit
  | .deleteNamespace _ => Unit
  | .getPod _ _ => Option Pod
  | .listPods _ _ => List Pod
  | .listEvents _ _ => List Event
  | .getCrd _ => Option Crd
  | .getJob _ _ => Option Job
  | .getService _ _ => Option Service
  | .serverVersion => String
  | .listNodes => List Node

/-- The name of a kind of call. -/
def name : Call → String
  | .getNamespace _ => "get_namespace"
  | .createNamespace _ _ => "create_namespace"
  | .deleteNamespace _ => "delete_namespace"
  | .getPod _ _ => "get_pod"
  | .listPods _ _ => "list_pods"
  | .listEvents _ _ => "list_events"
  | .getCrd _ => "get_crd"
  | .getJob _ _ => "get_job"
  | .getService _ _ => "get_service"
  | .serverVersion => "server_version"
  | .listNodes => "list_nodes"

end Call

end Groundwork.Cluster
