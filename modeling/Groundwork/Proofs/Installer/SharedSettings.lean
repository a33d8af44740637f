import Groundwork.Proofs.Component.Sharing
import Groundwork.Proofs.Component.SkipSetting

/-!
# Who decides a shared setting

Among the gathered settings a shared one is that of the last unit that shares its name
(`find?_gathered_shared`), with its default and its description.  A unit that is skipped by a name
which only others declare counts too: `find?_gather_skippedBy` says that to skip a unit by such a
name leaves the default and the description alone if a later unit shares the name, and otherwise
puts those of the skip setting in their place.
-/

namespace Groundwork

/-- The unit, skipped by a setting of this name. -/
def UnitSpec.skippedBy (u : UnitSpec) (name : String) : UnitSpec :=
  { u with skipSetting := some name }

namespace Installer

open Settings

variable {budgets : Budgets} {units pre post : List UnitSpec} {u : UnitSpec}
  {components : List Component} {name : String}

/-! ### The last unit decides -/

/-- Among the gathered settings, a shared one is that of the last unit that brings it along. -/
theorem find?_gathered_shared (hc : Component.Realize budgets units components) (name : String) :
    (gathered components).find? name .shared = units.reverse.findSome? fun u => u.shared? name := by
  rw [find?_gathered (keyed_of_realize hc)]
  symm
  apply findSome?_of_forall₂ (List.rel_reverse hc)
  intro spec c hspec
  rw [Component.clearShared_needed hspec, Component.find?_needed_shared hspec]

theorem isSome_findSome?_shared (h : ∀ u ∈ units, ∃ declared, u.declared = .ok declared) :
    (units.reverse.findSome? fun u => u.shared? name).isSome = true ↔
      ∃ u ∈ units, u.Shares name := by
  rw [List.findSome?_isSome_iff]
  constructor
  · rintro ⟨u, hu, hsome⟩
    have hmem := List.mem_reverse.mp hu
    obtain ⟨declared, hdeclared⟩ := h u hmem
    exact ⟨u, hmem, (UnitSpec.isSome_shared?_iff hdeclared).mp hsome⟩
  · rintro ⟨u, hu, hshares⟩
    obtain ⟨declared, hdeclared⟩ := h u hu
    exact ⟨u, List.mem_reverse.mpr hu, (UnitSpec.isSome_shared?_iff hdeclared).mpr hshares⟩

/-- The units after one come before it, and it before the units in front of it. -/
theorem findSome?_reverse_append_cons {α β : Type} (f : α → Option β) (pre post : List α) (a : α) :
    (pre ++ a :: post).reverse.findSome? f =
      (post.reverse.findSome? f).or ((f a).or (pre.reverse.findSome? f)) := by
  rw [List.reverse_append, List.findSome?_append, List.reverse_cons, List.findSome?_append,
    Option.or_assoc, List.findSome?_singleton]

/-! ### Skipping a unit by a setting of others -/

/-- Of a checked catalog, a unit that does not declare a name is skipped by it.  Whatever others
declare under that name keeps its default and its description just if a later unit shares the name,
or if they happen to be those of the skip setting, which otherwise takes their place. -/
theorem find?_gather_skippedBy (hcheck : (Catalog.mk budgets (pre ++ u :: post)).check = .ok ())
    (hcheck' : (Catalog.mk budgets (pre ++ u.skippedBy name :: post)).check = .ok ())
    (hu : ∀ d ∈ u.settings, d.name ≠ name)
    (hdeclared : ∃ v ∈ pre ++ u :: post, ∃ d ∈ v.settings, d.name = name ∧ d.isPrivate = false) :
    ∃ i i' s s', ofCatalog ⟨budgets, pre ++ u :: post⟩ = .ok i ∧
      ofCatalog ⟨budgets, pre ++ u.skippedBy name :: post⟩ = .ok i' ∧
      i.gather.settings.find? name .shared = some s ∧
      i'.gather.settings.find? name .shared = some s' ∧
      ((s'.default = s.default ∧ s'.description = s.description) ↔
        (∃ v ∈ post, v.Shares name) ∨
          s.default = .bool false ∧ s.description = "Skip installing " ++ u.id) ∧
      (¬(∃ v ∈ post, v.Shares name) →
        s'.default = .bool false ∧ s'.description = "Skip installing " ++ u.id) := by
  obtain ⟨i, hi⟩ := exists_ofCatalog hcheck
  obtain ⟨i', hi'⟩ := exists_ofCatalog hcheck'
  have hbefore := find?_gathered_shared (realize_of_ofCatalog hi) name
  have hafter := find?_gathered_shared (realize_of_ofCatalog hi') name
  rw [findSome?_reverse_append_cons] at hbefore hafter
  rw [UnitSpec.shared?_of_undeclared (u := u.skippedBy name) hu rfl, Option.some_or] at hafter
  -- something of the name is gathered without the skip setting
  obtain ⟨s, hs⟩ : ∃ s, (gathered i.components).find? name .shared = some s := by
    rw [← Option.isSome_iff_exists, find?_gathered_shared (realize_of_ofCatalog hi),
      isSome_findSome?_shared fun v hv => Catalog.exists_declared hcheck hv]
    obtain ⟨v, hv, d, hd, hname, hshared⟩ := hdeclared
    exact ⟨v, hv, Or.inl ⟨d, hd, hname, hshared⟩⟩
  have hlater : (post.reverse.findSome? fun v => v.shared? name).isSome = true ↔
      ∃ v ∈ post, v.Shares name :=
    isSome_findSome?_shared fun v hv =>
      Catalog.exists_declared hcheck (List.mem_append_right _ (List.mem_cons_of_mem _ hv))
  rw [hs] at hbefore
  rcases hpost : post.reverse.findSome? (fun v => v.shared? name) with _ | t
  · have hnone : ¬∃ v ∈ post, v.Shares name := by
      rw [← hlater, hpost]
      exact Bool.false_ne_true
    rw [hpost, Option.none_or] at hafter
    refine ⟨i, i', s, _, hi, hi', hs, hafter, ?_, fun _ => ⟨rfl, rfl⟩⟩
    constructor
    · rintro ⟨hdefault, hdescription⟩
      exact Or.inr ⟨hdefault.symm, hdescription.symm⟩
    · rintro (hshares | ⟨hdefault, hdescription⟩)
      · exact absurd hshares hnone
      · exact ⟨hdefault.symm, hdescription.symm⟩
  · have hsome : ∃ v ∈ post, v.Shares name := by
      rw [← hlater, hpost]
      rfl
    rw [hpost, Option.some_or] at hafter hbefore
    obtain rfl := Option.some.inj hbefore
    exact ⟨i, i', s, s, hi, hi', hs, hafter, ⟨fun _ => Or.inl hsome, fun _ => ⟨rfl, rfl⟩⟩,
      fun hnone => absurd hsome hnone⟩

/-- A unit that others may be left out with; its setting is true unless someone says otherwise. -/
def switchboard : UnitSpec :=
  { id := "base", kind := .manifest, manifest := some "base.yaml"
    settings := [{ name := "skip_web", kind := .boolean, default := some (.bool true),
                   description := "Leave the web site out" }] }

/-- A unit without settings. -/
def website : UnitSpec :=
  { id := "web", kind := .manifest, manifest := some "web.yaml" }

theorem find?_gather_skippedBy_earlier :
    ∃ i i' s s', ofCatalog ⟨{}, [website, switchboard]⟩ = .ok i ∧
      ofCatalog ⟨{}, [website.skippedBy "skip_web", switchboard]⟩ = .ok i' ∧
      i.gather.settings.find? "skip_web" .shared = some s ∧
      i'.gather.settings.find? "skip_web" .shared = some s' ∧
      s'.default = s.default ∧ s'.description = s.description := by
  have hdeclares : ∃ d ∈ switchboard.settings, d.name = "skip_web" ∧ d.isPrivate = false :=
    ⟨_, List.mem_singleton_self _, rfl, rfl⟩
  obtain ⟨i, i', s, s', hi, hi', hs, hs', hsame, -⟩ :=
    @find?_gather_skippedBy {} [] [switchboard] website "skip_web" rfl rfl
      (fun d hd => nomatch hd)
      ⟨switchboard, List.mem_cons_of_mem _ (List.mem_singleton_self _), hdeclares⟩
  have hlater : ∃ v ∈ [switchboard], v.Shares "skip_web" :=
    ⟨switchboard, List.mem_singleton_self _, Or.inl hdeclares⟩
  exact ⟨i, i', s, s', hi, hi', hs, hs', hsame.mpr (Or.inl hlater)⟩

/-- A later unit that is skipped by the setting of another one takes its default and its description
away. -/
theorem find?_gather_skippedBy_later :
    (Catalog.mk {} [switchboard, website]).check = .ok () ∧
      (Catalog.mk {} [switchboard, website.skippedBy "skip_web"]).check = .ok () ∧
      ∃ i i', ofCatalog ⟨{}, [switchboard, website]⟩ = .ok i ∧
        ofCatalog ⟨{}, [switchboard, website.skippedBy "skip_web"]⟩ = .ok i' ∧
        (i.gather.settings.find? "skip_web" .shared).map (fun s => (s.default, s.description)) =
          some (.bool true, "Leave the web site out") ∧
        (i'.gather.settings.find? "skip_web" .shared).map (fun s => (s.default, s.description)) =
          some (.bool false, "Skip installing web") :=
  ⟨rfl, rfl, _, _, rfl, rfl, rfl, rfl⟩

end Installer

end Groundwork
