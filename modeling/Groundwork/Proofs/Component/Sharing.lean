import Groundwork.Proofs.Component.Declarations

/-!
# What a unit says of a shared setting

A unit `Shares` a name if it declares a shared setting of that name, or if it is skipped by that
name and declares nothing of it.  `shared?` is the shared setting that it brings along: the last one
declared, or the one that skips the unit.  Its component needs just that setting
(`find?_needed_shared`).
-/

namespace Groundwork

namespace UnitSpec

variable {u : UnitSpec} {declared : Settings} {t : Setting} {name : String}

/-! ### Shared settings of a unit -/

/-- The last shared declaration of a name. -/
def lastShared? (u : UnitSpec) (name : String) : Option SettingSpec :=
  u.settings.reverse.find? fun s => s.name = name && !s.isPrivate

/-- The shared setting that the unit brings along under a name: the last one that it declares; or
the one that skips it, if it is skipped by that name and declares nothing of it. -/
def shared? (u : UnitSpec) (name : String) : Option Setting :=
  match u.lastShared? name with
  | some s => (s.toSetting u.id).toOption
  | none =>
    if u.skipSetting = some name ∧ ∀ s ∈ u.settings, s.name ≠ name then
      some (ChartUnit.skipSetting u name)
    else none

/-- The unit has a say in the shared setting of a name. -/
def Shares (u : UnitSpec) (name : String) : Prop :=
  (∃ s ∈ u.settings, s.name = name ∧ s.isPrivate = false) ∨
    u.skipSetting = some name ∧ ∀ s ∈ u.settings, s.name ≠ name

theorem lastShared?_eq_some {s : SettingSpec} (h : u.lastShared? name = some s) :
    s ∈ u.settings ∧ s.name = name ∧ s.isPrivate = false := by
  have hmem := List.mem_reverse.mp (List.mem_of_find?_eq_some h)
  have hshared := List.find?_some h
  simp only [Bool.and_eq_true, decide_eq_true_eq, Bool.not_eq_true'] at hshared
  exact ⟨hmem, hshared⟩

theorem lastShared?_eq_none_iff :
    u.lastShared? name = none ↔ ¬∃ s ∈ u.settings, s.name = name ∧ s.isPrivate = false := by
  simp [lastShared?, List.find?_eq_none]

theorem shared?_eq_some (h : u.shared? name = some t) :
    (∃ s ∈ u.settings, s.name = name ∧ s.isPrivate = false ∧ s.toSetting u.id = .ok t) ∨
      u.skipSetting = some name ∧ (∀ s ∈ u.settings, s.name ≠ name) ∧
        t = ChartUnit.skipSetting u name := by
  unfold shared? at h
  split at h
  · rename_i s hlast
    obtain ⟨hmem, hname, hshared⟩ := lastShared?_eq_some hlast
    refine Or.inl ⟨s, hmem, hname, hshared, ?_⟩
    rcases hsetting : s.toSetting u.id with fault | t'
    · rw [hsetting] at h
      cases h
    · rw [hsetting] at h
      rw [Option.some.inj h]
  · split at h
    · rename_i hskip
      exact Or.inr ⟨hskip.1, hskip.2, (Option.some.inj h).symm⟩
    · cases h

/-- What is brought along has the name, no value yet and no computed default. -/
theorem fields_of_shared? (h : u.shared? name = some t) :
    t.name = name ∧ t.choice = .pending ∧ t.dynamic = none := by
  rcases shared?_eq_some h with ⟨s, -, hname, -, hst⟩ | ⟨-, -, rfl⟩
  · obtain ⟨htName, -, -, hpending⟩ := SettingSpec.toSetting_eq_ok hst
    obtain ⟨default, -, rfl⟩ := map_eq_ok.mp hst
    exact ⟨htName.trans hname, hpending, rfl⟩
  · exact ⟨rfl, rfl, rfl⟩

theorem shared?_of_undeclared (h : ∀ s ∈ u.settings, s.name ≠ name)
    (hskip : u.skipSetting = some name) :
    u.shared? name = some (ChartUnit.skipSetting u name) := by
  have hlast : u.lastShared? name = none := by
    rw [lastShared?_eq_none_iff]
    rintro ⟨s, hs, hname, -⟩
    exact h s hs hname
  rw [shared?, hlast]
  exact if_pos ⟨hskip, h⟩

/-! ### What is declared -/

/-- Looking up what was declared finds the last declaration of the name and scope. -/
theorem find?_declared_eq (h : u.declared = .ok declared) (name : String) (scope : Scope) :
    declared.find? name scope =
      (u.settings.reverse.find? fun s => s.name = name && s.scopeIn u.id = scope).bind
        fun s => (s.toSetting u.id).toOption := by
  obtain ⟨settings, hsettings, rfl⟩ := declared_eq_ok h
  rw [Settings.find?_ofList, Settings.find?]
  apply Settings.find?_of_forall₂ (List.rel_reverse hsettings)
  intro s t hst
  obtain ⟨hname, hscope, -, -⟩ := SettingSpec.toSetting_eq_ok hst
  rw [hname, hscope, hst]
  exact ⟨rfl, rfl⟩

theorem find?_declared_shared (h : u.declared = .ok declared) (name : String) :
    declared.find? name .shared =
      (u.lastShared? name).bind fun s => (s.toSetting u.id).toOption := by
  rw [find?_declared_eq h, lastShared?]
  congr 2
  funext s
  cases hprivate : s.isPrivate <;> simp [SettingSpec.scopeIn, hprivate]

/-- Something of a name is found among the declared settings just when the unit declares it. -/
theorem any_declared_eq_true_iff (h : u.declared = .ok declared) :
    (declared.entries.any fun t => t.name = name) = true ↔ ∃ s ∈ u.settings, s.name = name := by
  rw [List.any_eq_true]
  constructor
  · rintro ⟨t, ht, hname⟩
    obtain ⟨s, hs, hst⟩ := mem_declared h ht
    have htName : t.name = name := of_decide_eq_true hname
    exact ⟨s, hs, (SettingSpec.toSetting_eq_ok hst).1.symm.trans htName⟩
  · rintro ⟨s, hs, rfl⟩
    -- the last declaration of the name and scope is found
    have hsome : (declared.find? s.name (s.scopeIn u.id)).isSome = true := by
      rw [← Option.isSome_map, find?_declared h, Option.isSome_map, List.find?_isSome]
      exact ⟨s, List.mem_reverse.mpr hs, by simp⟩
    obtain ⟨t, ht⟩ := Option.isSome_iff_exists.mp hsome
    obtain ⟨hmem, hname, -⟩ := Settings.find?_eq_some ht
    exact ⟨t, hmem, decide_eq_true hname⟩

/-- A unit shares a name just when it brings a shared setting of that name along. -/
theorem isSome_shared?_iff (h : u.declared = .ok declared) :
    (u.shared? name).isSome = true ↔ u.Shares name := by
  constructor
  · intro hsome
    obtain ⟨t, ht⟩ := Option.isSome_iff_exists.mp hsome
    rcases shared?_eq_some ht with ⟨s, hs, hname, hshared, -⟩ | ⟨hskip, hnone, -⟩
    · exact Or.inl ⟨s, hs, hname, hshared⟩
    · exact Or.inr ⟨hskip, hnone⟩
  · rintro (hdeclares | ⟨hskip, hnone⟩)
    · rcases hlast : u.lastShared? name with _ | s
      · exact absurd hdeclares (lastShared?_eq_none_iff.mp hlast)
      · -- every declaration of the unit is sound
        obtain ⟨settings, hsettings, -⟩ := declared_eq_ok h
        obtain ⟨t, -, hst⟩ := exists_of_mem_left hsettings (lastShared?_eq_some hlast).1
        rw [shared?, hlast]
        simp only [hst, Except.toOption, Option.isSome_some]
    · rw [shared?_of_undeclared hnone hskip]
      rfl

end UnitSpec

/-! ### What a component needs -/

namespace Component

variable {spec : UnitSpec} {budgets : Budgets} {c : Component}

/-- The setting that skips a unit is added where nothing of its name is declared. -/
theorem find?_withSkipSetting_shared {declared : Settings} (h : spec.declared = .ok declared)
    (name : String) :
    (ChartUnit.withSkipSetting spec declared).find? name .shared =
      if spec.skipSetting = some name ∧ ∀ s ∈ spec.settings, s.name ≠ name then
        some (ChartUnit.skipSetting spec name)
      else declared.find? name .shared := by
  unfold ChartUnit.withSkipSetting
  cases hskip : spec.skipSetting with
  | none => simp
  | some skip =>
    simp only
    by_cases hany : (declared.entries.any fun t => t.name = skip) = true
    · obtain ⟨d, hd, hname⟩ := (UnitSpec.any_declared_eq_true_iff h).mp hany
      rw [if_pos hany, if_neg]
      rintro ⟨hsame, hnone⟩
      exact hnone d hd (hname.trans (Option.some.inj hsame))
    · have hundeclared : ∀ d ∈ spec.settings, d.name ≠ skip := fun d hd hname =>
        hany ((UnitSpec.any_declared_eq_true_iff h).mpr ⟨d, hd, hname⟩)
      rw [if_neg hany, Settings.find?_insert]
      by_cases hname : skip = name
      · subst hname
        rw [if_pos ⟨rfl, rfl⟩, if_pos ⟨rfl, hundeclared⟩]
      · rw [if_neg fun hkey => hname hkey.1, if_neg fun hsame => hname (Option.some.inj hsame.1)]

/-- Of the shared settings of a name, a component needs the one that its unit brings along. -/
theorem find?_needed_shared (h : ofSpec spec budgets = .ok c) (name : String) :
    c.needed.find? name .shared = spec.shared? name := by
  obtain ⟨declared, hdeclared, hneeded⟩ := needed_of_ofSpec h
  rw [hneeded, find?_withSkipSetting_shared hdeclared, UnitSpec.find?_declared_shared hdeclared]
  unfold UnitSpec.shared?
  cases hlast : spec.lastShared? name with
  | none => rfl
  | some s =>
    obtain ⟨hs, hname, -⟩ := UnitSpec.lastShared?_eq_some hlast
    exact if_neg fun hskip => hskip.2 s hs hname

end Component

end Groundwork
