import Groundwork.Installer
import Groundwork.Proofs.Catalog.Check

/-!
# Components of specifications

`Component.ofSpec_eq_ok` says which components a specification gives: a chart unit, or the ingress
unit around it.  Whatever the kind, the component has the id and the settings of its chart unit, and
is removed like it.  The components of a catalog `Realize` its units, one by one, and a catalog that
passes its check has an installer (`exists_ofCatalog`).
-/

namespace Groundwork

namespace ChartUnit

variable {spec : UnitSpec} {budgets : Budgets} {u : ChartUnit}

theorem ofSpec_eq_ok :
    ofSpec spec budgets = .ok u ↔
      ∃ declared, spec.declared = .ok declared ∧
        u = ⟨spec, withSkipSetting spec declared, budgets⟩ := by
  unfold ofSpec
  cases spec.declared with
  | error fault => simp
  | ok declared => simp [eq_comm]

theorem spec_of_ofSpec (h : ofSpec spec budgets = .ok u) : u.spec = spec := by
  obtain ⟨declared, -, rfl⟩ := ofSpec_eq_ok.mp h
  rfl

theorem budgets_of_ofSpec (h : ofSpec spec budgets = .ok u) : u.budgets = budgets := by
  obtain ⟨declared, -, rfl⟩ := ofSpec_eq_ok.mp h
  rfl

end ChartUnit

namespace Component

variable {spec : UnitSpec} {budgets : Budgets} {c : Component}

theorem ofSpec_eq_ok :
    ofSpec spec budgets = .ok c ↔
      ∃ u, ChartUnit.ofSpec spec budgets = .ok u ∧
        c = if spec.kind = .ingress then IngressUnit.toComponent ⟨u⟩ else u.toComponent := by
  unfold ofSpec
  cases ChartUnit.ofSpec spec budgets with
  | error fault => simp [Except.map]
  | ok u => simp [Except.map, eq_comm]

/-- A component of a specification is a chart unit or an ingress unit of that specification. -/
theorem cases_of_ofSpec (h : ofSpec spec budgets = .ok c) :
    ∃ u : ChartUnit, ChartUnit.ofSpec spec budgets = .ok u ∧ u.spec = spec ∧
      u.budgets = budgets ∧ (c = u.toComponent ∨ c = IngressUnit.toComponent ⟨u⟩) := by
  obtain ⟨u, hu, rfl⟩ := ofSpec_eq_ok.mp h
  refine ⟨u, hu, ChartUnit.spec_of_ofSpec hu, ChartUnit.budgets_of_ofSpec hu, ?_⟩
  by_cases hkind : spec.kind = .ingress
  · rw [if_pos hkind]
    exact Or.inr rfl
  · rw [if_neg hkind]
    exact Or.inl rfl

theorem id_of_ofSpec (h : ofSpec spec budgets = .ok c) : c.id = spec.id := by
  obtain ⟨u, -, rfl, -, hkind⟩ := cases_of_ofSpec h
  rcases hkind with rfl | rfl <;> rfl

/-- Whatever its kind, a component is removed like its chart unit. -/
theorem remove_of_ofSpec (h : ofSpec spec budgets = .ok c) :
    ∃ u : ChartUnit, c.remove = u.remove ∧ u.spec.id = c.id ∧ u.budgets = budgets := by
  obtain ⟨u, -, -, hbudgets, hkind⟩ := cases_of_ofSpec h
  rcases hkind with rfl | rfl
  · exact ⟨u, rfl, rfl, hbudgets⟩
  · exact ⟨u, rfl, rfl, hbudgets⟩

theorem exists_ofSpec (h : ∃ declared, spec.declared = .ok declared) :
    ∃ c, ofSpec spec budgets = .ok c := by
  obtain ⟨declared, hdeclared⟩ := h
  exact ⟨_, ofSpec_eq_ok.mpr ⟨_, ChartUnit.ofSpec_eq_ok.mpr ⟨declared, hdeclared, rfl⟩, rfl⟩⟩

/-- The components are those of the specifications, one by one. -/
abbrev Realize (budgets : Budgets) : List UnitSpec → List Component → Prop :=
  List.Forall₂ fun spec c => ofSpec spec budgets = .ok c

theorem ofCatalog_eq_ok {catalog : Catalog} {components : List Component} :
    ofCatalog catalog = .ok components ↔ Realize catalog.budgets catalog.units components :=
  mapM_eq_ok

theorem ids_of_realize {specs : List UnitSpec} {components : List Component}
    (h : Realize budgets specs components) :
    components.map Component.id = specs.map UnitSpec.id := by
  induction h with
  | nil => rfl
  | cons hc _ ih => rw [List.map_cons, List.map_cons, id_of_ofSpec hc, ih]

end Component

namespace Installer

variable {catalog : Catalog} {i : Installer}

theorem realize_of_ofCatalog (h : ofCatalog catalog = .ok i) :
    Component.Realize catalog.budgets catalog.units i.components := by
  obtain ⟨components, hcomponents, rfl⟩ := map_eq_ok.mp h
  exact Component.ofCatalog_eq_ok.mp hcomponents

/-- A catalog whose units all declare sound settings has an installer. -/
theorem exists_ofCatalog_of_declared
    (h : ∀ u ∈ catalog.units, ∃ declared, u.declared = .ok declared) :
    ∃ i, ofCatalog catalog = .ok i := by
  have hunits : ∀ u ∈ catalog.units, ∃ c, Component.ofSpec u catalog.budgets = .ok c :=
    fun u hu => Component.exists_ofSpec (h u hu)
  obtain ⟨components, hcomponents⟩ := exists_mapM_eq_ok_iff.mpr hunits
  exact ⟨⟨components, ∅⟩, map_eq_ok.mpr ⟨components, hcomponents, rfl⟩⟩

theorem exists_ofCatalog (h : catalog.check = .ok ()) : ∃ i, ofCatalog catalog = .ok i :=
  exists_ofCatalog_of_declared fun _ hu => catalog.exists_declared h hu

end Installer

end Groundwork
