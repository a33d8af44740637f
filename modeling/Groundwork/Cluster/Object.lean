import Groundwork.Table

/-!
# Objects of a cluster

What the engine reads of the objects in a cluster.  Everything else about them is left out.
-/

namespace Groundwork.Cluster

/-- Labels of an object, each key once. -/
abbrev Labels := Table String String

/-! ### Objects -/

/-- A namespace. -/
structure Namespace where
  name : Option String := none
  labels : Option Labels := none
  deriving DecidableEq, Inhabited

/-- What a container of a pod is doing. -/
structure ContainerState where
  isWaiting : Bool := false
  isRunning : Bool := false
  deriving DecidableEq

/-- The reported state of a pod. -/
structure PodStatus where
  phase : Option String := none
  containers : List ContainerState := []
  initContainers : List ContainerState := []
  deriving DecidableEq

/-- A pod. -/
structure Pod where
  namespaceName : Option String := none
  name : Option String := none
  labels : Option Labels := none
  status : Option PodStatus := none
  deriving DecidableEq, Inhabited

/-- An event about an object. -/
structure Event where
  namespaceName : Option String := none
  /-- The name of the object. -/
  object : Option String := none
  reason : Option String := none
  message : Option String := none
  deriving DecidableEq, Inhabited

/-- A condition that an object reports of itself. -/
structure Condition where
  type : String
  status : String
  message : Option String := none
  deriving DecidableEq

/-- The definition of a kind of resource. -/
structure Crd where
  name : Option String := none
  conditions : List Condition := []
  deriving DecidableEq, Inhabited

/-- A job. -/
structure Job where
  namespaceName : Option String := none
  name : Option String := none
  conditions : List Condition := []
  deriving DecidableEq, Inhabited

/-- An entry point of a load balancer. -/
structure EntryPoint where
  ip : Option String := none
  hostname : Option String := none
  deriving DecidableEq

/-- A service. -/
structure Service where
  namespaceName : Option String := none
  name : Option String := none
  entryPoints : List EntryPoint := []
  deriving DecidableEq, Inhabited

/-- An address of a node. -/
structure NodeAddress where
  type : String
  address : String
  deriving DecidableEq

/-- A node. -/
structure Node where
  name : Option String := none
  labels : Option Labels := none
  providerId : Option String := none
  addresses : List NodeAddress := []
  kubeletVersion : Option String := none
  deriving DecidableEq, Inhabited

end Groundwork.Cluster
