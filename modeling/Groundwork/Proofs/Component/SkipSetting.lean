import Groundwork.Proofs.Component.Declarations
import Groundwork.Proofs.Installer.Gathering
import Groundwork.Proofs.Settings.Filling

/-!
# When the setting that skips a unit can be read

The check of a catalog looks at the first declaration of the name by which a unit is skipped; the
unit, once settings are gathered and resolved, reads its own private setting of the name, which is
the last one declared, or else the shared one.  The two agree but for one case, and
`skipReason_resolved` says which: the name can be read as a truth value if and only if the last
private declaration of it, if the unit makes any, is one.  It is never unknown.
-/

namespace Groundwork

open Settings

namespace Installer

variable {catalog : Catalog} {budgets : Budgets} {units : List UnitSpec}
  {components : List Component} {spec : UnitSpec} {name : String}

/-! ### Gathered settings of a catalog -/

theorem keyed_of_realize (hc : Component.Realize budgets units components) :
    ∀ c ∈ components, c.needed.Keyed := by
  intro c hmem
  obtain ⟨spec, -, hspec⟩ := exists_of_mem_right hc hmem
  exact Component.keyed_needed hspec

/-- What is gathered is what some component needs. -/
theorem exists_needed_of_mem_gathered {s : Setting}
    (hc : Component.Realize budgets units components) (hs : s ∈ (gathered components).entries) :
    ∃ u ∈ units, ∃ c, Component.ofSpec u budgets = .ok c ∧ s ∈ c.needed.entries := by
  obtain ⟨c, hmem, hs⟩ := mem_gathered hs
  obtain ⟨u, hu, hofSpec⟩ := exists_of_mem_right hc hmem
  rw [Component.clearShared_needed hofSpec] at hs
  exact ⟨u, hu, c, hofSpec, hs⟩

theorem find?_gathered_eq_none {scope : Scope} {c : Component}
    (hc : Component.Realize budgets units components)
    (h : (gathered components).find? name scope = none) (hmem : c ∈ components) :
    c.needed.find? name scope = none := by
  rw [find?_gathered (keyed_of_realize hc), List.findSome?_eq_none_iff] at h
  have hnone := h c (List.mem_reverse.mpr hmem)
  rwa [find?_clearShared, Option.map_eq_none_iff] at hnone

/-- The private setting of a unit is the last one that the unit declares. -/
theorem find?_gathered_private (hcheck : catalog.check = .ok ())
    (hc : Component.Realize catalog.budgets catalog.units components)
    (hspec : spec ∈ catalog.units) (name : String) :
    ((gathered components).find? name (.unit spec.id)).map Setting.kind =
      (spec.lastPrivate? name).map SettingSpec.kind := by
  rcases hfound : (gathered components).find? name (.unit spec.id) with _ | s
  · obtain ⟨c, hmem, hofSpec⟩ := exists_of_mem_left hc hspec
    rw [← Component.find?_needed_private hofSpec, find?_gathered_eq_none hc hfound hmem]
  · obtain ⟨hs, hname, hscope⟩ := find?_eq_some hfound
    obtain ⟨other, hother, c, hofSpec, hneeded⟩ := exists_needed_of_mem_gathered hc hs
    -- nobody else has a setting that is private to the unit
    obtain rfl : other = spec := List.inj_on_of_nodup_map (catalog.ids_nodup hcheck) hother hspec
      (Component.id_of_mem_needed hofSpec hneeded hscope)
    have hown := (Component.keyed_needed hofSpec).find?_of_mem hneeded
    rw [hname, hscope] at hown
    rw [← Component.find?_needed_private hofSpec, hown]

/-- A unit that keeps no setting of the name by which it is skipped to itself finds a shared one,
and it is a truth value. -/
theorem find?_gathered_skip (hcheck : catalog.check = .ok ())
    (hc : Component.Realize catalog.budgets catalog.units components)
    (hspec : spec ∈ catalog.units) {skip : String} (hskip : spec.skipSetting = some skip)
    (hprivate : spec.lastPrivate? skip = none) :
    ∃ s, (gathered components).find? skip .shared = some s ∧ s.kind = .boolean := by
  rcases hfound : (gathered components).find? skip .shared with _ | s
  · obtain ⟨c, hmem, hofSpec⟩ := exists_of_mem_left hc hspec
    obtain ⟨t, ht⟩ := Component.find?_needed_skip hofSpec hskip hprivate
    rw [find?_gathered_eq_none hc hfound hmem] at ht
    cases ht
  · refine ⟨s, rfl, ?_⟩
    obtain ⟨hs, hname, hscope⟩ := find?_eq_some hfound
    obtain ⟨other, hother, c, hofSpec, hneeded⟩ := exists_needed_of_mem_gathered hc hs
    -- either some unit shares a declaration of the name, or the setting was added to skip a unit
    rcases Component.mem_needed hofSpec hneeded with ⟨d, hd, hdt⟩ | ⟨skip', -, rfl⟩
    · obtain ⟨hdName, hdScope, hdKind, -⟩ := SettingSpec.toSetting_eq_ok hdt
      have hdShared : d.isPrivate = false := by
        by_contra hnot
        rw [hdScope, SettingSpec.scopeIn, if_pos (by simpa using hnot)] at hscope
        cases hscope
      rw [hdKind]
      exact Catalog.kind_of_shared_skip hcheck hspec hskip
        (fun e he hname => UnitSpec.isPrivate_of_lastPrivate?_eq_none hprivate he hname) hother hd
        hdShared (hdName.symm.trans hname)
    · rfl

theorem isTyped_of_mem_gathered {s : Setting} (hc : Component.Realize budgets units components)
    (hs : s ∈ (gathered components).entries) : s.IsTyped := by
  obtain ⟨u, -, c, hofSpec, hneeded⟩ := exists_needed_of_mem_gathered hc hs
  exact Setting.isTyped_of_pending (Component.pending_of_mem_needed hofSpec hneeded)

end Installer

/-! ### Reading the setting -/

namespace ChartUnit

open Installer

variable {catalog : Catalog} {spec : UnitSpec} {skip : String} {ss : Settings}

/-- The setting that a unit means by a name, once the gathered settings were filled. -/
theorem get?_resolved {components : List Component} (hcheck : catalog.check = .ok ())
    (hc : Component.Realize catalog.budgets catalog.units components)
    (hfills : List.Forall₂ Setting.Fills (gathered components).entries ss.entries)
    (hspec : spec ∈ catalog.units) (hskip : spec.skipSetting = some skip) :
    ∃ s, (ss.viewFor spec.id).get? skip (some spec.id) = some s ∧ s.name = skip ∧ s.IsTyped ∧
      s.kind = ((spec.lastPrivate? skip).map SettingSpec.kind).getD .boolean := by
  have htyped := isTyped_of_fills hfills fun s hs => isTyped_of_mem_gathered hc hs
  have hown : (ss.find? skip (.unit spec.id)).map Setting.kind =
      (spec.lastPrivate? skip).map SettingSpec.kind := by
    rw [map_kind_find?_of_fills hfills, find?_gathered_private hcheck hc hspec]
  rw [get?_viewFor, get?_eq, Option.bind_some]
  -- the unit's own setting comes before the shared one
  rcases hprivate : spec.lastPrivate? skip with _ | d
  · rw [hprivate, Option.map_none, Option.map_eq_none_iff] at hown
    obtain ⟨t, ht, htKind⟩ := find?_gathered_skip hcheck hc hspec hskip hprivate
    have hshared : (ss.find? skip .shared).map Setting.kind = some .boolean := by
      rw [map_kind_find?_of_fills hfills, ht, Option.map_some, htKind]
    obtain ⟨s, hs, hkind⟩ := Option.map_eq_some_iff.mp hshared
    obtain ⟨hmem, hname, -⟩ := find?_eq_some hs
    rw [hown, Option.none_or]
    exact ⟨s, hs, hname, htyped s hmem, hkind⟩
  · rw [hprivate, Option.map_some] at hown
    obtain ⟨s, hs, hkind⟩ := Option.map_eq_some_iff.mp hown
    obtain ⟨hmem, hname, -⟩ := find?_eq_some hs
    rw [hs, Option.some_or]
    exact ⟨s, rfl, hname, htyped s hmem, hkind⟩

/-- The setting that skips a unit of a checked catalog can be read unless the last private
declaration of its name is not a truth value; then the kinds are in conflict. -/
theorem skipReason_resolved (hcheck : catalog.check = .ok ()) (hspec : spec ∈ catalog.units)
    (hskip : spec.skipSetting = some skip) :
    ∃ i u, Installer.ofCatalog catalog = .ok i ∧ ChartUnit.ofSpec spec catalog.budgets = .ok u ∧
      ∀ chain : List Source,
        ((∃ reason, u.skipReason ((i.gather.settings.resolve chain).settings.viewFor spec.id) =
            .ok reason) ↔
          ∀ d, spec.lastPrivate? skip = some d → d.kind = .boolean) ∧
        ∀ d, spec.lastPrivate? skip = some d → d.kind ≠ .boolean →
          u.skipReason ((i.gather.settings.resolve chain).settings.viewFor spec.id) =
            .error (.wrongKind skip .boolean d.kind) := by
  obtain ⟨i, hi⟩ := exists_ofCatalog hcheck
  obtain ⟨declared, hdeclared⟩ := catalog.exists_declared hcheck hspec
  have hu : ChartUnit.ofSpec spec catalog.budgets =
      .ok ⟨spec, withSkipSetting spec declared, catalog.budgets⟩ :=
    ofSpec_eq_ok.mpr ⟨declared, hdeclared, rfl⟩
  refine ⟨i, _, hi, hu, ?_⟩
  intro chain
  obtain ⟨s, hget, hname, htyped, hkind⟩ := get?_resolved hcheck (realize_of_ofCatalog hi)
    (resolve_fills i.gather.settings chain) hspec hskip
  have hconflict : ∀ d, spec.lastPrivate? skip = some d → d.kind ≠ .boolean →
      skipReason ⟨spec, withSkipSetting spec declared, catalog.budgets⟩
        ((i.gather.settings.resolve chain).settings.viewFor spec.id) =
        .error (.wrongKind skip .boolean d.kind) := by
    intro d hd hne
    rw [hd, Option.map_some, Option.getD_some] at hkind
    rw [skipReason, hskip]
    simp only
    rw [getBool_of_not_boolean hget htyped (hkind ▸ hne), hname, hkind]
    rfl
  refine ⟨⟨?_, ?_⟩, hconflict⟩
  · rintro ⟨reason, hreason⟩ d hd
    by_contra hne
    rw [hconflict d hd hne] at hreason
    cases hreason
  · intro hboolean
    have hs : s.kind = .boolean := by
      rcases hprivate : spec.lastPrivate? skip with _ | d
      · rw [hkind, hprivate]
        rfl
      · rw [hkind, hprivate]
        exact hboolean d hprivate
    obtain ⟨b, hb⟩ := getBool_of_boolean hget htyped hs
    rw [skipReason, hskip]
    simp only
    rw [hb]
    exact ⟨_, rfl⟩

/-- A unit with a shared and a private setting of the name by which it is skipped; the shared one is
a truth value. -/
def namesakes (own : Kind) : UnitSpec :=
  { id := "web", kind := .manifest, manifest := some "web.yaml", skipSetting := some "skip"
    settings := [{ name := "skip", kind := .boolean },
      { name := "skip", kind := own, isPrivate := true }] }

theorem skipReason_namesakes_boolean :
    ∃ i u, Installer.ofCatalog ⟨{}, [namesakes .boolean]⟩ = .ok i ∧
      ChartUnit.ofSpec (namesakes .boolean) {} = .ok u ∧
      ∀ chain : List Source, ∃ reason,
        u.skipReason ((i.gather.settings.resolve chain).settings.viewFor "web") = .ok reason := by
  obtain ⟨i, u, hi, hu, hread⟩ := @skipReason_resolved ⟨{}, [namesakes .boolean]⟩
    (namesakes .boolean) "skip" rfl (List.mem_singleton_self _) rfl
  refine ⟨i, u, hi, hu, fun chain => (hread chain).1.mpr ?_⟩
  intro d hd
  cases hd
  rfl

/-- The check accepts a unit whose own setting is a text, and all settings get a value, yet none
tells whether to skip the unit. -/
theorem skipReason_namesakes_string :
    (Catalog.mk {} [namesakes .string]).check = .ok () ∧
      ∃ i u, Installer.ofCatalog ⟨{}, [namesakes .string]⟩ = .ok i ∧
        ChartUnit.ofSpec (namesakes .string) {} = .ok u ∧
        (i.gather.settings.resolve [.defaults, .completeness]).error = none ∧
        u.skipReason
            ((i.gather.settings.resolve [.defaults, .completeness]).settings.viewFor "web") =
          .error (.wrongKind "skip" .boolean .string) :=
  ⟨rfl, _, _, rfl, rfl, rfl, rfl⟩

end ChartUnit

end Groundwork
