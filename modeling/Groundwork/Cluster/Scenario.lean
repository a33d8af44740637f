import Groundwork.Cluster.Fake

/-!
# Clusters that change and fail

A cluster in memory whose objects come and go by a timetable, and some of whose calls fail.  Single
objects may be put in front of those that the cluster holds.
-/

namespace Groundwork.Cluster

/-- Objects to put into a cluster. -/
structure Additions where
  namespaces : List (String × Labels) := []
  deletionLag : Option Nat := none
  externalIps : List String := []
  nodes : List Node := []
  pods : List Pod := []
  crds : List Crd := []
  jobs : List Job := []
  events : List Event := []
  /-- Services the cluster holds, with their load balancer addresses. -/
  services : List (String × String × Option String) := []
  /-- Events listed after those that the cluster holds. -/
  laterEvents : List Event := []
  /-- Services read in place of those that the cluster holds. -/
  shownServices : List Service := []
  /-- Pods read one by one in place of those that the cluster holds. -/
  shownPods : List Pod := []
  version : Option String := none
  deriving Inhabited

/-- What goes wrong with a call. -/
inductive Trouble where
  /-- The call fails and does not reach the cluster. -/
  | fails (error : DeployError)
  /-- The call reaches the cluster and finds nothing. -/
  | findsNothing

/-- Calls that do not go well: those of one name, from one number up to another. -/
structure Fault where
  call : String
  first : Nat := 1
  count : Nat := 1
  trouble : Trouble

/-- A cluster in memory with a timetable and faults. -/
structure Scenario where
  cluster : Fake := {}
  /-- What is still to come: the nanosecond, and what comes. -/
  timetable : List (Nat × Additions) := []
  faults : List Fault := []
  /-- How often each call has been made. -/
  calls : Table String Nat := []
  laterEvents : List Event := []
  shownServices : Table (String × String) Service := []
  shownPods : Table (String × String) Pod := []
  shownVersion : Option String := none
  deriving Inhabited

namespace Scenario

/-- Puts objects into the cluster. -/
def add (s : Scenario) (a : Additions) : Scenario :=
  let f := s.cluster
  let f := match a.deletionLag with
    | some lag => { f with deletionLag := lag }
    | none => f
  let f := f.addExternalIps a.externalIps
  let f := a.namespaces.foldl (fun f n => f.addNamespace n.1 n.2) f
  let f := a.nodes.foldl Fake.addNode f
  let f := a.pods.foldl Fake.addPod f
  let f := a.crds.foldl Fake.addCrd f
  let f := a.jobs.foldl Fake.addJob f
  let f := a.events.foldl Fake.addEvent f
  let f := a.services.foldl (fun f e => f.addService e.1 e.2.1 e.2.2) f
  { s with
    cluster := f
    laterEvents := s.laterEvents ++ a.laterEvents
    shownServices := a.shownServices.foldl (fun t e =>
      Table.put (e.namespaceName.getD "", e.name.getD "") e t) s.shownServices
    shownPods := a.shownPods.foldl (fun t p =>
      Table.put (p.namespaceName.getD "", p.name.getD "") p t) s.shownPods
    shownVersion := a.version.or s.shownVersion }

/-- Puts in what the timetable says up to a time. -/
def advanceTo (now : Nat) (s : Scenario) : Scenario :=
  let due := s.timetable.filter fun entry => entry.1 ≤ now
  due.foldl (fun s entry => s.add entry.2)
    { s with timetable := s.timetable.filter fun entry => !(entry.1 ≤ now) }

/-- Notes a call, and finds what goes wrong with it. -/
def noteCall (c : Call) (s : Scenario) : Option Trouble × Scenario :=
  let number := (Table.get? s.calls c.name).getD 0 + 1
  let fault := s.faults.find? fun f =>
    f.call = c.name && f.first ≤ number && number < f.first + f.count
  (fault.map Fault.trouble, { s with calls := Table.put c.name number s.calls })

/-- The answer of the cluster with the shown objects in front. -/
def shown (s : Scenario) : (c : Call) → Except DeployError c.Found → Except DeployError c.Found
  | .getPod namespaceName name, found =>
    match Table.get? s.shownPods (namespaceName, name) with
    | some p => .ok (some p)
    | none => found
  | .getService namespaceName name, found =>
    match Table.get? s.shownServices (namespaceName, name) with
    | some e => .ok (some e)
    | none => found
  | .listEvents namespaceName object, found =>
    found.map fun events => events ++ s.laterEvents.filter fun e =>
      e.namespaceName = some namespaceName && e.object = some object
  | .serverVersion, found =>
    match s.shownVersion with
    | some v => .ok v
    | none => found
  | _, found => found

/-- The answer of a call that finds nothing, where that is possible. -/
def nothing : (c : Call) → Except DeployError c.Found → Except DeployError c.Found
  | .getService _ _, _ => .ok none
  | .getPod _ _, _ => .ok none
  | .getNamespace _, _ => .ok none
  | .getCrd _, _ => .ok none
  | .getJob _ _, _ => .ok none
  | .listPods _ _, _ => .ok []
  | .listEvents _ _, _ => .ok []
  | .listNodes, _ => .ok []
  | _, found => found

/-- Answers a call at a time. -/
def answer (now : Nat) (c : Call) (s : Scenario) : Except DeployError c.Found × Scenario :=
  let (trouble, s) := (s.advanceTo now).noteCall c
  match trouble with
  | some (.fails e) => (.error e, s)
  | some .findsNothing =>
    let (found, f) := s.cluster.answer c
    (nothing c found, { s with cluster := f })
  | none =>
    let (found, f) := s.cluster.answer c
    (s.shown c found, { s with cluster := f })

end Scenario

end Groundwork.Cluster
