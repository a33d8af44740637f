import Groundwork.Cluster.Platform
import Groundwork.Component.Chart

/-!
# Ingress controllers

Many clusters have an ingress controller already, and a second one would want the same ports, so
this component steps aside for one that is not its own.  Once installed it has to be reachable:
where there are load balancers it waits for an address, elsewhere its service is pinned to the
addresses of the nodes.
-/

namespace Groundwork

open Cluster

/-- A chart that brings an ingress controller. -/
structure IngressUnit where
  chart : ChartUnit

namespace IngressUnit

/-- The namespace of what a cluster brings along. -/
def systemNamespace : String := "kube-system"

/-- The services that show a controller: the listed ones, or the one named like the release. -/
def watched (u : IngressUnit) : List String :=
  if u.chart.spec.services.isEmpty then [u.chart.spec.releaseName] else u.chart.spec.services

/-- The service that gets the address: the first watched one. -/
def mainService (u : IngressUnit) : String :=
  u.watched.head?.getD u.chart.spec.releaseName

/-- The values that pin a service to addresses. -/
def pinnedTo (addresses : List String) : List (String × String) :=
  addresses.mapIdx fun i ip => ("service.externalIPs[" ++ Text.decimal i ++ "]", ip)

/-- The values that expose the service, and whether to wait for a load balancer. -/
def exposure : Engine (List (String × String) × Bool) := do
  let facts ← readFacts
  if facts.hasLoadBalancer then return ([], true) else return (pinnedTo facts.externalIps, false)

/-- Waits until the controller can be reached. -/
def awaitReachable (u : IngressUnit) : Engine Unit := do
  let id := u.chart.spec.id
  Engine.say .progress ("Waiting for a LoadBalancer address on " ++ id ++ "/" ++ u.mainService)
  let address ← awaitAddress id u.mainService u.chart.budgets.forLoadBalancer
  Engine.say .success (id ++ " reachable at " ++ address)

/-- Applies the chart in one way or the other, exposed and reachable. -/
def exposed (u : IngressUnit) (apply : List (String × String) → Engine Bool) : Engine Unit := do
  let (values, balanced) ← exposure
  let applied ← apply values
  if applied && balanced then u.awaitReachable else return ()

/-- The first of several places where a service is found. -/
def findService : List (String × String) → Engine (Option String)
  | [] => return none
  | (namespaceName, service) :: rest => do
    match ← Engine.call (.getService namespaceName service) with
    | some _ =>
      return some ("found existing ingress service " ++ namespaceName ++ "/" ++ service)
    | none => findService rest

/-- Where to look for a controller: for each watched service the unit's namespace and that of the
system. -/
def places (u : IngressUnit) : List (String × String) :=
  u.watched.flatMap fun service =>
    [(u.chart.spec.id, service), (systemNamespace, service)]

/-- Whether the cluster has a controller that is not the unit's own. -/
def provided (u : IngressUnit) : Engine (Option String) := do
  match ← NamespaceState.read u.chart.spec.id with
  | .owned => return none
  | _ => findService u.places

/-- The unit as a component. -/
def toComponent (u : IngressUnit) : Component :=
  { u.chart.toComponent with
    install := fun settings => u.exposed (u.chart.installWith settings)
    upgrade := fun settings => u.exposed (u.chart.upgradeWith settings)
    provided := u.provided }

end IngressUnit

/-! ### Components of a catalog -/

namespace Component

/-- The component of a unit. -/
def ofSpec (spec : UnitSpec) (budgets : Budgets) : Except SetupError Component :=
  (ChartUnit.ofSpec spec budgets).map fun u =>
    if spec.kind = .ingress then IngressUnit.toComponent ⟨u⟩ else u.toComponent

/-- The components of a catalog, in its order. -/
def ofCatalog (c : Catalog) : Except SetupError (List Component) :=
  c.units.mapM fun spec => ofSpec spec c.budgets

end Component

end Groundwork
