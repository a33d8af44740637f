import Groundwork.Engine

/-!
# Whose namespace it is

Every namespace that the installer creates carries a label.  One without the label belongs to
someone else and is never changed.  The three guards say when a unit may be installed, upgraded or
removed.
-/

namespace Groundwork.Cluster

/-- The label of the installer's namespaces. -/
def ownerLabel : String := "app.kubernetes.io/managed-by"

/-- The value of the label. -/
def ownerName : String := "plinth"

/-- The labels of a namespace that the installer creates. -/
def ownerLabels : Labels := [(ownerLabel, ownerName)]

/-- Whether the installer has created a namespace. -/
def Namespace.isOwned (n : Namespace) : Bool :=
  n.labels.bind (fun l => Table.get? l ownerLabel) == some ownerName

/-- Whether a namespace is there, and whose it is. -/
inductive NamespaceState where
  | absent
  | owned
  | foreign
  deriving DecidableEq

namespace NamespaceState

/-- The state that a look at a namespace shows. -/
def ofFound : Option Namespace → NamespaceState
  | none => .absent
  | some n => if n.isOwned then .owned else .foreign

/-- Looks at a namespace. -/
def read (name : String) : Engine NamespaceState := do
  return ofFound (← Engine.call (.getNamespace name))

/-- Looks at several namespaces, one after the other. -/
def readAll : List String → Engine (List NamespaceState)
  | [] => return []
  | name :: rest => do
    let state ← read name
    return state :: (← readAll rest)

end NamespaceState

/-- Creates a namespace with the label. -/
def createOwned (name : String) : Engine Unit :=
  Engine.call (.createNamespace name ownerLabels)

/-! ### Guards -/

/-- A unit may be installed where its namespace is absent. -/
def guardInstall (id : String) : Engine Unit := do
  match ← NamespaceState.read id with
  | .absent => return ()
  | _ => throw (.namespacePresent id)

/-- A unit may be upgraded where its namespace is the installer's. -/
def guardUpgrade (id : String) : Engine Unit := do
  match ← NamespaceState.read id with
  | .owned => return ()
  | .absent => throw (.namespaceAbsent id)
  | .foreign => throw (.namespaceForeign id)

/-- Whether a unit is to be removed; says why if not. -/
def guardRemove (id : String) : Engine Bool := do
  match ← NamespaceState.read id with
  | .owned => return true
  | .absent =>
    Engine.say .exclamation (id ++ " not installed, nothing to remove")
    return false
  | .foreign =>
    Engine.say .exclamation ("Namespace " ++ id ++ " is not owned by plinth, skipping")
    return false

end Groundwork.Cluster
