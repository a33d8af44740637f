import Groundwork.Cluster.Object
import Groundwork.Text.Lower

/-!
# Specimens

Objects made up from the few facts that matter about them, for clusters in memory.
-/

namespace Groundwork.Cluster.Specimen

/-- A pod in a phase that reports nothing of its containers. -/
def pod (namespaceName name : String) (labels : Labels) (phase : String) : Pod :=
  { namespaceName := some namespaceName
    name := some name
    labels := some labels
    status := some { phase := some phase } }

/-- A running pod. -/
def runningPod (namespaceName name : String) (labels : Labels) : Pod :=
  pod namespaceName name labels "Running"

/-- A running pod whose only container waits. -/
def waitingPod (namespaceName name : String) (labels : Labels) : Pod :=
  { runningPod namespaceName name labels with
    status := some { phase := some "Running", containers := [{ isWaiting := true }] } }

/-- A node; an empty id of the provider is none. -/
def node (name : String) (labels : Labels) (providerId : String) (addresses : List NodeAddress) :
    Node :=
  { name := some name
    labels := some labels
    providerId := if providerId.isEmpty then none else some providerId
    addresses }

/-- A definition of a kind of resource, established or not. -/
def crd (name : String) (established : Bool) : Crd :=
  { name := some name
    conditions := [⟨"Established", if established then "True" else "False", none⟩] }

/-- A job for which at most one condition holds. -/
def job (namespaceName name : String) (condition : Option String) : Job :=
  { namespaceName := some namespaceName
    name := some name
    conditions := condition.toList.map fun type =>
      ⟨type, "True", some ("job " ++ Text.lower type)⟩ }

/-- An event about an object. -/
def event (namespaceName object reason message : String) : Event :=
  { namespaceName := some namespaceName
    object := some object
    reason := some reason
    message := some message }

/-- A service, with the address of a load balancer if there is one. -/
def service (namespaceName name : String) (ip : Option String) : Service :=
  { namespaceName := some namespaceName
    name := some name
    entryPoints := ip.toList.map fun address => ⟨some address, none⟩ }

end Groundwork.Cluster.Specimen
