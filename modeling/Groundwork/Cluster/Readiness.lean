import Groundwork.Engine

/-!
# Readiness

When objects of the cluster count as ready, and the waits for them.  Every wait looks once a second
and gives up when its budget is used up.  The error about a pod carries the events about it.
-/

namespace Groundwork.Cluster

/-! ### What counts as ready -/

/-- A pod is ready if no container waits, no init container waits or runs, and it is running or has
succeeded. -/
def Pod.isReady (p : Pod) : Bool :=
  match p.status with
  | none => false
  | some s =>
    !s.containers.any ContainerState.isWaiting
      && !s.initContainers.any (fun c => c.isWaiting || c.isRunning)
      && (s.phase == some "Running" || s.phase == some "Succeeded")

/-- The first address of the load balancer of a service; of an entry point the ip before the
hostname. -/
def Service.address? (s : Service) : Option String :=
  s.entryPoints.findSome? fun e => e.ip.or e.hostname

/-- Whether a kind of resource can be used. -/
def Crd.isEstablished (c : Crd) : Bool :=
  c.conditions.any fun k => k.type = "Established" && k.status = "True"

/-- Whether a job has finished: its first condition of two that holds decides whether it has
completed or failed. -/
def Job.isFinished (namespaceName name : String) : List Condition → Except DeployError Bool
  | [] => .ok false
  | k :: rest =>
    if k.status = "True" ∧ k.type = "Complete" then .ok true
    else if k.status = "True" ∧ k.type = "Failed" then
      .error (.jobFailed namespaceName name (k.message.getD ""))
    else isFinished namespaceName name rest

/-! ### Events -/

/-- The line of an event. -/
def Event.line (e : Event) : String :=
  "  " ++ e.reason.getD "Unknown" ++ ": " ++ e.message.getD ""

/-- The lines of the events about an object. -/
def eventLines : Except DeployError (List Event) → String
  | .ok [] => "  (none)"
  | .ok events => Text.join "\n" (events.map Event.line)
  | .error e => "  (failed to list events: " ++ e.message ++ ")"

/-- The events about an object, as text.  This never fails. -/
def describeEvents (namespaceName name : String) : Engine String :=
  (Engine.call (.listEvents namespaceName name)).handle fun found => .done (eventLines found)

/-! ### Waits -/

/-- Waits for a pod to be ready. -/
def awaitPod (namespaceName name : String) (budget : Duration) : Engine Unit :=
  (Engine.pollUntil budget (.getPod namespaceName name)
    fun pod => .ok (pod.any Pod.isReady)).handle fun
    | .ok _ => .done ()
    | .error e => do
      let events ← describeEvents namespaceName name
      throw (.podNotReady name namespaceName events e)

/-- Waits until some pod matches a selector. -/
def awaitAnyPod (namespaceName selector : String) (budget : Duration) : Engine Unit :=
  Engine.pollUntil budget (.listPods namespaceName selector) fun pods => .ok (!pods.isEmpty)

/-- Waits for pods one after the other, each with the whole budget.  Pods without a name are passed
over. -/
def awaitEach (namespaceName : String) (budget : Duration) : List Pod → Engine Unit
  | [] => return ()
  | pod :: rest => do
    match pod.name with
    | some name => awaitPod namespaceName name budget
    | none => pure ()
    awaitEach namespaceName budget rest

/-- Waits for the pods that match a selector now; there has to be one. -/
def awaitPods (namespaceName selector : String) (budget : Duration) : Engine Unit := do
  let pods ← Engine.call (.listPods namespaceName selector)
  if pods.isEmpty then throw (.noPods namespaceName selector)
  else awaitEach namespaceName budget pods

/-- Waits for a namespace to vanish. -/
def awaitNamespaceGone (name : String) (budget : Duration) : Engine Unit :=
  Engine.pollUntil budget (.getNamespace name) fun found => .ok found.isNone

/-- Waits for a kind of resource to be established. -/
def awaitCrd (name : String) (budget : Duration) : Engine Unit :=
  Engine.pollUntil budget (.getCrd name) fun crd => .ok (crd.any Crd.isEstablished)

/-- Waits for a job to complete; a failed job ends the wait. -/
def awaitJob (namespaceName name : String) (budget : Duration) : Engine Unit :=
  Engine.pollUntil budget (.getJob namespaceName name) fun job =>
    Job.isFinished namespaceName name ((job.map Job.conditions).getD [])

/-- Running out of time while waiting for an address has an error of its own. -/
def addressOverdue (namespaceName name : String) : DeployError → DeployError
  | .timeout budget => .loadBalancerPending namespaceName name budget
  | e => e

/-- Waits for the load balancer address of a service and reads it.  A service that is not there has
no address yet. -/
def awaitAddress (namespaceName name : String) (budget : Duration) : Engine String := do
  (Engine.pollUntil budget (.getService namespaceName name)
    fun service => .ok (service.bind Service.address?).isSome).mapError
      (addressOverdue namespaceName name)
  let service ← Engine.call (.getService namespaceName name)
  match service.bind Service.address? with
  | some address => return address
  | none =>
    throw (.cluster ("service " ++ namespaceName ++ "/" ++ name
      ++ " lost its load balancer address"))

end Groundwork.Cluster
