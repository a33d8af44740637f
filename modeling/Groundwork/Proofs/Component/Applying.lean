import Groundwork.Proofs.Component.Building
import Groundwork.Proofs.Engine.Requests

/-!
# Installing and upgrading are alike

A unit that is not skipped claims its namespace in one way or the other (`ChartUnit.claim`), and what
follows is the same for both verbs: it is applied, and the user is told.  `applyWith_of_active`
says so; the other two equations are those of a unit that is skipped, and of one whose setting cannot
be read.
-/

namespace Groundwork

open Script Cluster

/-- Going on twice is going on with what goes on. -/
theorem Script.andThen_andThen {Request : Type} {Answer : Request → Type} {ε α β γ : Type}
    (s : Script Request Answer ε α) (f : α → Script Request Answer ε β)
    (g : β → Script Request Answer ε γ) :
    (s.andThen f).andThen g = s.andThen fun a => (f a).andThen g := by
  induction s with
  | done a => rfl
  | fail e => rfl
  | ask request next ih => exact congrArg (ask request) (funext ih)
  | sleep time next ih => exact congrArg (sleep time) ih
  | poll wait request pending next expired ihn ihe =>
    exact congr (congrArg (poll wait request pending) (funext ihn)) ihe

/-! ### Units -/

namespace ChartUnit

variable (u : ChartUnit) {verb : Verb} {settings : Settings} {extra : List (String × String)}

/-- Makes sure that the namespace is the unit's to work in. -/
def claim (u : ChartUnit) : Verb → Engine Unit
  | .install => do
    guardInstall u.spec.id
    Engine.say .note ("Deploying " ++ u.describe)
    createOwned u.spec.id
  | .upgrade => do
    guardUpgrade u.spec.id
    Engine.say .note ("Upgrading " ++ u.describe)

/-- What the user is told in the end. -/
def doneText (u : ChartUnit) : Verb → String
  | .install => u.spec.id ++ " deployed"
  | .upgrade => u.spec.id ++ " upgraded"

/-- Installs or upgrades the unit with further values. -/
def applyWith (u : ChartUnit) : Verb → Settings → List (String × String) → Engine Bool
  | .install => u.installWith
  | .upgrade => u.upgradeWith

/-- To claim a namespace it is read, and created for an installation. -/
theorem asksOnly_claim {P : Action → Prop} (hsay : ∀ level text, P (.say level text))
    (hread : P (.call (.getNamespace u.spec.id)))
    (hcreate : P (.call (.createNamespace u.spec.id ownerLabels))) (verb : Verb) :
    AsksOnly P (u.claim verb) := by
  have hnote (text : String) : AsksOnly P (Engine.say .note text) :=
    ⟨hsay _ _, fun _ => trivial⟩
  cases verb with
  | install =>
    apply (asksOnly_guardInstall hread).andThen
    intro _
    apply (hnote _).andThen
    intro _
    exact Engine.asksOnly_call hcreate
  | upgrade =>
    apply (asksOnly_guardUpgrade hread).andThen
    intro _
    exact hnote _

theorem applyWith_of_error {fault : SetupError} (h : u.skipReason settings = .error fault) :
    u.applyWith verb settings extra = .fail (.setup fault) := by
  cases verb with
  | install =>
    rw [applyWith, installWith, h]
    rfl
  | upgrade =>
    rw [applyWith, upgradeWith, h]
    rfl

theorem applyWith_of_skipped {reason : String} (h : u.skipReason settings = .ok (some reason)) :
    u.applyWith verb settings extra = (u.saySkipped reason).andThen fun _ => .done false := by
  cases verb with
  | install =>
    rw [applyWith, installWith, h]
    rfl
  | upgrade =>
    rw [applyWith, upgradeWith, h]
    rfl

theorem applyWith_of_active (h : u.skipReason settings = .ok none) :
    u.applyWith verb settings extra =
      (u.claim verb).andThen fun _ => (u.apply verb settings extra).andThen fun _ =>
        (Engine.say .success (u.doneText verb)).andThen fun _ => .done true := by
  cases verb with
  | install =>
    rw [applyWith, installWith, h]
    simp only [claim, bind_eq_andThen, andThen_andThen]
    rfl
  | upgrade =>
    rw [applyWith, upgradeWith, h]
    simp only [claim, bind_eq_andThen, andThen_andThen]
    rfl

end ChartUnit

/-- The values that expose a service on a cluster, and whether it gets a load balancer. -/
def IngressUnit.exposureOn (nodes : List Node) (version : String) :
    List (String × String) × Bool :=
  if (Platform.facts nodes version).hasLoadBalancer then ([], true)
  else (pinnedTo (Platform.facts nodes version).externalIps, false)

/-! ### Components -/

namespace Component

variable {spec : UnitSpec} {budgets : Budgets} {c : Component}

/-- Installs or upgrades the component. -/
def applyBy (c : Component) : Verb → Settings → Engine Unit
  | .install => c.install
  | .upgrade => c.upgrade

theorem applyBy_toComponent (u : ChartUnit) (verb : Verb) (settings : Settings) :
    u.toComponent.applyBy verb settings =
      (u.applyWith verb settings []).andThen fun _ => .done () := by
  cases verb with
  | install => rfl
  | upgrade => rfl

theorem applyBy_ingress (u : IngressUnit) (verb : Verb) (settings : Settings) :
    u.toComponent.applyBy verb settings = u.exposed (u.chart.applyWith verb settings) := by
  cases verb with
  | install => rfl
  | upgrade => rfl

end Component

namespace ChartUnit

/-- The unit as a component of its kind. -/
def component (u : ChartUnit) : Component :=
  if u.spec.kind = .ingress then IngressUnit.toComponent ⟨u⟩ else u.toComponent

theorem component_of_ofSpec {spec : UnitSpec} {budgets : Budgets} {c : Component}
    (h : Component.ofSpec spec budgets = .ok c) :
    ∃ u : ChartUnit, c = u.component ∧ u.spec = spec ∧ u.budgets = budgets := by
  obtain ⟨u, hu, rfl⟩ := Component.ofSpec_eq_ok.mp h
  have hspec := spec_of_ofSpec hu
  refine ⟨u, ?_, hspec, budgets_of_ofSpec hu⟩
  rw [component, hspec]

theorem id_component (u : ChartUnit) : u.component.id = u.spec.id := by
  unfold component
  split <;> rfl

/-- Whatever its kind, a component is removed like its chart unit. -/
theorem remove_component (u : ChartUnit) : u.component.remove = u.remove := by
  unfold component
  split <;> rfl

theorem applyBy_component (u : ChartUnit) (verb : Verb) (settings : Settings) :
    u.component.applyBy verb settings =
      if u.spec.kind = .ingress then IngressUnit.exposed ⟨u⟩ (u.applyWith verb settings)
      else (u.applyWith verb settings []).andThen fun _ => .done () := by
  unfold component
  split
  · exact Component.applyBy_ingress ⟨u⟩ verb settings
  · exact Component.applyBy_toComponent u verb settings

end ChartUnit

end Groundwork
