import Mathlib.Tactic.SplitIfs
import Groundwork.Proofs.Component.Building
import Groundwork.Proofs.Settings.Keys
import Groundwork.Proofs.Value

/-!
# What units declare

The settings of a component are those that its unit declares, the last declaration of each name and
scope (`find?_declared`), and the shared setting that skips it, if the unit declares none of that
name (`Component.find?_needed_skip`).  None of them has a value yet.
-/

namespace Groundwork

/-! ### One declaration -/

/-- Who sees the setting that is declared by a unit. -/
def SettingSpec.scopeIn (s : SettingSpec) (unit : String) : Scope :=
  if s.isPrivate then .unit unit else .shared

theorem SettingSpec.toSetting_eq_ok {s : SettingSpec} {unit : String} {t : Setting}
    (h : s.toSetting unit = .ok t) :
    t.name = s.name ∧ t.scope = s.scopeIn unit ∧ t.kind = s.kind ∧ t.choice = .pending := by
  obtain ⟨default, hdefault, rfl⟩ := map_eq_ok.mp h
  refine ⟨rfl, rfl, ?_, rfl⟩
  show default.kind = s.kind
  unfold typedDefault at hdefault
  split at hdefault
  · cases hdefault
    exact Value.kind_zero s.kind
  · split at hdefault
    · rename_i hcoerce
      cases hdefault
      exact Value.kind_coerce hcoerce
    · cases hdefault

/-! ### All declarations of a unit -/

namespace UnitSpec

variable {u : UnitSpec} {declared : Settings} {t : Setting} {name : String} {scope : Scope}

theorem declared_eq_ok (h : u.declared = .ok declared) :
    ∃ settings, List.Forall₂ (fun s t => SettingSpec.toSetting s u.id = .ok t) u.settings settings ∧
      declared = Settings.ofList settings := by
  obtain ⟨settings, hsettings, rfl⟩ := map_eq_ok.mp h
  exact ⟨settings, mapM_eq_ok.mp hsettings, rfl⟩

theorem keyed_declared (h : u.declared = .ok declared) : declared.Keyed := by
  obtain ⟨settings, -, rfl⟩ := declared_eq_ok h
  exact Settings.keyed_ofList settings

theorem mem_declared (h : u.declared = .ok declared) (ht : t ∈ declared.entries) :
    ∃ s ∈ u.settings, s.toSetting u.id = .ok t := by
  obtain ⟨settings, hsettings, rfl⟩ := declared_eq_ok h
  rcases Settings.mem_insertAll ht with ht | ht
  · exact exists_of_mem_right hsettings ht
  · cases ht

/-- The last declaration of a name and scope counts. -/
theorem find?_declared (h : u.declared = .ok declared) (name : String) (scope : Scope) :
    (declared.find? name scope).map Setting.kind =
      (u.settings.reverse.find? fun s => s.name = name && s.scopeIn u.id = scope).map
        SettingSpec.kind := by
  obtain ⟨settings, hsettings, rfl⟩ := declared_eq_ok h
  rw [Settings.find?_ofList]
  symm
  apply Settings.map_find?_of_forall₂ (List.rel_reverse hsettings)
  intro s t hst
  obtain ⟨hname, hscope, hkind, -⟩ := SettingSpec.toSetting_eq_ok hst
  rw [hname, hscope, hkind]
  exact ⟨rfl, rfl⟩

/-- The last private declaration of a name. -/
def lastPrivate? (u : UnitSpec) (name : String) : Option SettingSpec :=
  u.settings.reverse.find? fun s => s.name = name && s.isPrivate

theorem find?_declared_private (h : u.declared = .ok declared) (name : String) :
    (declared.find? name (.unit u.id)).map Setting.kind =
      (u.lastPrivate? name).map SettingSpec.kind := by
  rw [find?_declared h, lastPrivate?]
  congr 2
  funext s
  cases hprivate : s.isPrivate <;> simp [SettingSpec.scopeIn, hprivate]

theorem isPrivate_of_lastPrivate?_eq_none (h : u.lastPrivate? name = none) {s : SettingSpec}
    (hs : s ∈ u.settings) (hname : s.name = name) : s.isPrivate = false := by
  have hnot := List.find?_eq_none.mp h s (List.mem_reverse.mpr hs)
  simpa [hname] using hnot

end UnitSpec

/-! ### What a component needs -/

namespace Component

variable {spec : UnitSpec} {budgets : Budgets} {c : Component} {t : Setting} {name : String}

theorem needed_of_ofSpec (h : ofSpec spec budgets = .ok c) :
    ∃ declared, spec.declared = .ok declared ∧
      c.needed = ChartUnit.withSkipSetting spec declared := by
  obtain ⟨u, hu, -, -, hkind⟩ := cases_of_ofSpec h
  obtain ⟨declared, hdeclared, rfl⟩ := ChartUnit.ofSpec_eq_ok.mp hu
  refine ⟨declared, hdeclared, ?_⟩
  rcases hkind with rfl | rfl <;> rfl

/-- Nothing or one shared setting is added to the declared ones. -/
theorem withSkipSetting_cases (spec : UnitSpec) (declared : Settings) :
    ChartUnit.withSkipSetting spec declared = declared ∨
      ∃ skip, spec.skipSetting = some skip ∧
        ChartUnit.withSkipSetting spec declared =
          declared.insert (ChartUnit.skipSetting spec skip) := by
  unfold ChartUnit.withSkipSetting
  cases hskip : spec.skipSetting with
  | none => exact Or.inl rfl
  | some skip =>
    simp only
    split_ifs
    · exact Or.inl rfl
    · exact Or.inr ⟨skip, rfl, rfl⟩

theorem keyed_needed (h : ofSpec spec budgets = .ok c) : c.needed.Keyed := by
  obtain ⟨declared, hdeclared, hneeded⟩ := needed_of_ofSpec h
  have hkeyed := UnitSpec.keyed_declared hdeclared
  rw [hneeded]
  rcases withSkipSetting_cases spec declared with heq | ⟨skip, -, heq⟩
  · rw [heq]
    exact hkeyed
  · rw [heq]
    exact hkeyed.insert _

/-- Every setting that a component needs was declared by its unit, or it skips the unit. -/
theorem mem_needed (h : ofSpec spec budgets = .ok c) (ht : t ∈ c.needed.entries) :
    (∃ s ∈ spec.settings, s.toSetting spec.id = .ok t) ∨
      ∃ skip, spec.skipSetting = some skip ∧ t = ChartUnit.skipSetting spec skip := by
  obtain ⟨declared, hdeclared, hneeded⟩ := needed_of_ofSpec h
  rw [hneeded] at ht
  rcases withSkipSetting_cases spec declared with heq | ⟨skip, hskip, heq⟩
  · rw [heq] at ht
    exact Or.inl (UnitSpec.mem_declared hdeclared ht)
  · rw [heq] at ht
    rcases Settings.mem_insertEntry ht with rfl | ht
    · exact Or.inr ⟨skip, hskip, rfl⟩
    · exact Or.inl (UnitSpec.mem_declared hdeclared ht)

theorem pending_of_mem_needed (h : ofSpec spec budgets = .ok c) (ht : t ∈ c.needed.entries) :
    t.choice = .pending := by
  rcases mem_needed h ht with ⟨s, -, hs⟩ | ⟨skip, -, rfl⟩
  · exact (SettingSpec.toSetting_eq_ok hs).2.2.2
  · rfl

theorem clearShared_needed (h : ofSpec spec budgets = .ok c) : c.needed.clearShared = c.needed :=
  Settings.clearShared_of_pending fun _ hs => pending_of_mem_needed h hs

/-- The private settings of a component are those of its own unit. -/
theorem id_of_mem_needed (h : ofSpec spec budgets = .ok c) (ht : t ∈ c.needed.entries)
    {unit : String} (hscope : t.scope = .unit unit) : spec.id = unit := by
  rcases mem_needed h ht with ⟨s, -, hs⟩ | ⟨skip, -, rfl⟩
  · rw [(SettingSpec.toSetting_eq_ok hs).2.1, SettingSpec.scopeIn] at hscope
    split at hscope
    · cases hscope
      rfl
    · cases hscope
  · cases hscope

theorem find?_needed_private (h : ofSpec spec budgets = .ok c) (name : String) :
    (c.needed.find? name (.unit spec.id)).map Setting.kind =
      (spec.lastPrivate? name).map SettingSpec.kind := by
  obtain ⟨declared, hdeclared, hneeded⟩ := needed_of_ofSpec h
  rw [hneeded, ← UnitSpec.find?_declared_private hdeclared]
  rcases withSkipSetting_cases spec declared with heq | ⟨skip, -, heq⟩
  · rw [heq]
  · rw [heq, Settings.find?_insert, if_neg]
    rintro ⟨-, hscope⟩
    cases hscope

/-- A unit that keeps no setting of the name by which it is skipped to itself needs a shared one. -/
theorem find?_needed_skip (h : ofSpec spec budgets = .ok c) {skip : String}
    (hskip : spec.skipSetting = some skip) (hprivate : spec.lastPrivate? skip = none) :
    ∃ t, c.needed.find? skip .shared = some t := by
  obtain ⟨declared, hdeclared, hneeded⟩ := needed_of_ofSpec h
  rw [hneeded, ChartUnit.withSkipSetting, hskip]
  simp only
  split_ifs with hany
  · -- something of the name is declared, and the unit keeps none of the name to itself
    obtain ⟨t, ht, hname⟩ := List.any_eq_true.mp hany
    have hname' : t.name = skip := of_decide_eq_true hname
    obtain ⟨s, hs, hst⟩ := UnitSpec.mem_declared hdeclared ht
    obtain ⟨hsName, hsScope, -, -⟩ := SettingSpec.toSetting_eq_ok hst
    have hshared : s.isPrivate = false :=
      UnitSpec.isPrivate_of_lastPrivate?_eq_none hprivate hs (hsName ▸ hname')
    refine ⟨t, ?_⟩
    have hfound := (UnitSpec.keyed_declared hdeclared).find?_of_mem ht
    rw [hname', hsScope, SettingSpec.scopeIn, hshared] at hfound
    exact hfound
  · refine ⟨ChartUnit.skipSetting spec skip, ?_⟩
    rw [Settings.find?_insert]
    exact if_pos ⟨rfl, rfl⟩

end Component

end Groundwork
