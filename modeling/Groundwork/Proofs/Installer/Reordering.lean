import Groundwork.Proofs.Installer.SharedSettings
import Groundwork.Proofs.Settings.Precedence

/-!
# The order of the units

Whether the gathered settings of a checked catalog can be resolved does not depend on the order of
its units (`gathered_readable_iff`), and neither do the values that the command line gives.  But the
default of a shared setting is that of the last unit that shares it, so `resolve_gather_perm` says
that a shared setting without a flag has the same value in two orders just if that default is the
same.
-/

namespace Groundwork.Installer

open Settings

variable {budgets : Budgets} {units units' : List UnitSpec} {components : List Component}
  {flags : Flags} {facts : Facts} {name : String}

/-! ### Units that go together -/

/-- The units have ids of their own and sound settings, and agree on the kinds of what they
share. -/
structure Compatible (units : List UnitSpec) : Prop where
  ids : (units.map UnitSpec.id).Nodup
  declared : ∀ u ∈ units, ∃ declared, u.declared = .ok declared
  kinds : ∀ u ∈ units, ∀ v ∈ units, ∀ name s t, u.shared? name = some s →
    v.shared? name = some t → s.kind = t.kind

theorem Compatible.perm (h : Compatible units) (hperm : units'.Perm units) :
    Compatible units' where
  ids := (hperm.map UnitSpec.id).nodup_iff.mpr h.ids
  declared u hu := h.declared u (hperm.mem_iff.mp hu)
  kinds u hu v hv := h.kinds u (hperm.mem_iff.mp hu) v (hperm.mem_iff.mp hv)

/-- What is shared to skip a unit is a truth value, and so is whatever else has its name. -/
theorem kind_of_shared?_skip {catalog : Catalog} {u v : UnitSpec} {s : Setting}
    (hcheck : catalog.check = .ok ()) (hu : u ∈ catalog.units) (hv : v ∈ catalog.units)
    (hskip : u.skipSetting = some name) (hnone : ∀ d ∈ u.settings, d.name ≠ name)
    (hs : v.shared? name = some s) : s.kind = .boolean := by
  rcases UnitSpec.shared?_eq_some hs with ⟨d, hd, hname, hshared, hds⟩ | ⟨-, -, rfl⟩
  · rw [(SettingSpec.toSetting_eq_ok hds).2.2.1]
    exact Catalog.kind_of_shared_skip hcheck hu hskip (fun e he heq => absurd heq (hnone e he)) hv
      hd hshared hname
  · rfl

theorem compatible_of_check {catalog : Catalog} (hcheck : catalog.check = .ok ()) :
    Compatible catalog.units where
  ids := catalog.ids_nodup hcheck
  declared _ hu := catalog.exists_declared hcheck hu
  kinds := by
    intro u hu v hv name s t hs ht
    rcases UnitSpec.shared?_eq_some hs with ⟨d, hd, hdName, hdShared, hds⟩ | ⟨hskip, hnone, rfl⟩
    · rcases UnitSpec.shared?_eq_some ht with ⟨e, he, heName, heShared, het⟩ | ⟨hskip, hnone, rfl⟩
      · rw [(SettingSpec.toSetting_eq_ok hds).2.2.1, (SettingSpec.toSetting_eq_ok het).2.2.1]
        exact Catalog.kind_of_shared hcheck hu hv hd hdShared he heShared (hdName.trans heName.symm)
      · exact kind_of_shared?_skip hcheck hv hu hskip hnone hs
    · exact (kind_of_shared?_skip hcheck hu hv hskip hnone ht).symm

/-- What two units of a compatible list need under one key has one kind. -/
theorem Compatible.kind_of_key (h : Compatible units) {u v : UnitSpec} {c d : Component}
    (hu : u ∈ units) (hv : v ∈ units) (hc : Component.ofSpec u budgets = .ok c)
    (hd : Component.ofSpec v budgets = .ok d) {s t : Setting} (hs : s ∈ c.needed.entries)
    (ht : t ∈ d.needed.entries) (hname : s.name = t.name) (hscope : s.scope = t.scope) :
    s.kind = t.kind := by
  have hsFound := (Component.keyed_needed hc).find?_of_mem hs
  have htFound := (Component.keyed_needed hd).find?_of_mem ht
  rw [hname, hscope] at hsFound
  rcases ht' : t.scope with _ | id
  · rw [ht', Component.find?_needed_shared hc] at hsFound
    rw [ht', Component.find?_needed_shared hd] at htFound
    exact h.kinds u hu v hv t.name s t hsFound htFound
  · -- a private setting belongs to one unit alone, and to it only once
    have hid : u.id = v.id := (Component.id_of_mem_needed hc hs (hscope.trans ht')).trans
      (Component.id_of_mem_needed hd ht ht').symm
    obtain rfl : u = v := List.inj_on_of_nodup_map h.ids hu hv hid
    obtain rfl : c = d := Except.ok.inj (hc.symm.trans hd)
    rw [htFound] at hsFound
    rw [Option.some.inj hsFound]

/-! ### Texts that can be read -/

/-- The flags can be read for the gathered settings just when they can be read for every unit. -/
theorem gathered_readable_iff (hunits : Compatible units)
    (hc : Component.Realize budgets units components) :
    (∀ s ∈ (gathered components).entries, s.refused? flags = none) ↔
      ∀ u ∈ units, ∀ c, Component.ofSpec u budgets = .ok c →
        ∀ t ∈ c.needed.entries, t.refused? flags = none := by
  constructor
  · intro hreadable u hu c hofSpec t ht
    obtain ⟨c', hmem, hofSpec'⟩ := exists_of_mem_left hc hu
    obtain rfl : c = c' := Except.ok.inj (hofSpec.symm.trans hofSpec')
    rcases hfound : (gathered components).find? t.name t.scope with _ | s
    · have hnone := find?_gathered_eq_none hc hfound hmem
      exact absurd ⟨rfl, rfl⟩ (find?_eq_none_iff.mp hnone t ht)
    · -- another unit may have put its own setting in the place of this one
      obtain ⟨hs, hname, hscope⟩ := find?_eq_some hfound
      obtain ⟨v, hv, d, hd, hsNeeded⟩ := exists_needed_of_mem_gathered hc hs
      have hkind := hunits.kind_of_key hv hu hd hofSpec hsNeeded ht hname hscope
      have hvalid : s.isValid = t.isValid := by
        rw [Setting.isValid, Setting.isValid, Component.pending_of_mem_needed hd hsNeeded,
          Component.pending_of_mem_needed hofSpec ht]
      rw [← Setting.refused?_congr hvalid hname hkind]
      exact hreadable s hs
  · intro hreadable s hs
    obtain ⟨u, hu, c, hofSpec, hneeded⟩ := exists_needed_of_mem_gathered hc hs
    exact hreadable u hu c hofSpec s hneeded

/-! ### Values of shared settings -/

/-- The default that the last unit with a say in a shared setting gives it. -/
def lastDefault? (units : List UnitSpec) (name : String) : Option Value :=
  (units.reverse.findSome? fun u => u.shared? name).map Setting.default

/-- The shared settings that were resolved are those with which some unit has to do. -/
theorem isSome_find?_resolve_gathered (hunits : Compatible units)
    (hc : Component.Realize budgets units components)
    (hreadable : ∀ s ∈ (gathered components).entries, s.refused? flags = none) :
    (((gathered components).resolve (unattended flags facts)).settings.find? name
        .shared).isSome = true ↔ ∃ u ∈ units, u.Shares name := by
  rw [resolve_unattended_of_readable facts hreadable,
    find?_map _ (Setting.key_settled flags facts), Option.isSome_map, find?_gathered_shared hc,
    isSome_findSome?_shared hunits.declared]

/-- A shared setting that was resolved has the value of its flag, or if there is none the default of
the last unit with a say in it. -/
theorem find?_resolve_gathered_shared (hc : Component.Realize budgets units components)
    (hreadable : ∀ s ∈ (gathered components).entries, s.refused? flags = none) {s : Setting}
    (h : ((gathered components).resolve (unattended flags facts)).settings.find? name .shared =
      some s) :
    ∃ u ∈ units, ∃ t, u.shared? name = some t ∧
      (∀ raw, flags.get? (Setting.flagName name) = some raw →
        Value.parse t.kind raw = some s.value) ∧
      (flags.get? (Setting.flagName name) = none → lastDefault? units name = some s.value) := by
  rw [resolve_unattended_of_readable facts hreadable,
    find?_map _ (Setting.key_settled flags facts)] at h
  obtain ⟨t, ht, rfl⟩ := Option.map_eq_some_iff.mp h
  have hread := hreadable t (find?_eq_some ht).1
  rw [find?_gathered_shared hc] at ht
  obtain ⟨u, hu, hshared⟩ := List.exists_of_findSome?_eq_some ht
  obtain ⟨rfl, hpending, hdynamic⟩ := UnitSpec.fields_of_shared? hshared
  have hinvalid : t.isValid = false := by
    rw [Setting.isValid, hpending]
  have hvalue : (t.settled flags facts).value =
      ((flags.get? (Setting.flagName t.name)).bind fun raw => Value.parse t.kind raw).getD
        t.default :=
    Setting.value_settled_of_not_dynamic hinvalid hdynamic hread
  refine ⟨u, List.mem_reverse.mp hu, t, hshared, ?_, ?_⟩
  · intro raw hraw
    obtain ⟨v, hparse⟩ := Setting.exists_parse_of_refused?_eq_none hinvalid hraw hread
    rw [hvalue, hraw, Option.bind_some, hparse, Option.getD_some]
  · intro hraw
    rw [hvalue, hraw, Option.bind_none, Option.getD_none, lastDefault?, ht, Option.map_some]

/-- A checked catalog is resolved with the same flags and facts in two orders of its units.  Either
both fail, or neither; and then a shared setting has the same value in both just if its flag is
given or the last unit with a say in it gives it the same default in both. -/
theorem resolve_gather_perm {catalog : Catalog} (hcheck : catalog.check = .ok ())
    (hperm : units.Perm catalog.units) (flags : Flags) (facts : Facts) :
    ∃ i i', ofCatalog catalog = .ok i ∧ ofCatalog ⟨catalog.budgets, units⟩ = .ok i' ∧
      ((i.gather.settings.resolve (unattended flags facts)).error = none ↔
        (i'.gather.settings.resolve (unattended flags facts)).error = none) ∧
      ((i.gather.settings.resolve (unattended flags facts)).error = none →
        ∀ name s, (i.gather.settings.resolve (unattended flags facts)).settings.find? name .shared =
            some s →
          ∃ s', (i'.gather.settings.resolve (unattended flags facts)).settings.find? name .shared =
              some s' ∧
            (s'.value = s.value ↔ (flags.get? (Setting.flagName name)).isSome = true ∨
              lastDefault? units name = lastDefault? catalog.units name)) := by
  have hunits := compatible_of_check hcheck
  have hunits' := hunits.perm hperm
  obtain ⟨i, hi⟩ := exists_ofCatalog hcheck
  obtain ⟨i', hi'⟩ : ∃ i', ofCatalog ⟨catalog.budgets, units⟩ = .ok i' :=
    exists_ofCatalog_of_declared hunits'.declared
  have hc := realize_of_ofCatalog hi
  have hc' := realize_of_ofCatalog hi'
  have hreadable : (∀ s ∈ (gathered i.components).entries, s.refused? flags = none) ↔
      ∀ s ∈ (gathered i'.components).entries, s.refused? flags = none := by
    rw [gathered_readable_iff hunits hc, gathered_readable_iff hunits' hc']
    exact forall_congr' fun u => imp_congr_left hperm.mem_iff.symm
  refine ⟨i, i', hi, hi', ?_, ?_⟩
  · rw [error_unattended_eq_none_iff, error_unattended_eq_none_iff]
    exact hreadable
  · intro hsuccess name s hs
    have hread := error_unattended_eq_none_iff.mp hsuccess
    have hread' := hreadable.mp hread
    have hshares : ∃ u ∈ units, u.Shares name := by
      obtain ⟨u, hu, hshares⟩ := (isSome_find?_resolve_gathered hunits hc hread).mp
        (Option.isSome_iff_exists.mpr ⟨s, hs⟩)
      exact ⟨u, hperm.mem_iff.mpr hu, hshares⟩
    obtain ⟨s', hs'⟩ := Option.isSome_iff_exists.mp
      ((isSome_find?_resolve_gathered hunits' hc' hread').mpr hshares)
    refine ⟨s', hs', ?_⟩
    obtain ⟨u, hu, t, ht, hflag, hdefault⟩ := find?_resolve_gathered_shared hc hread hs
    obtain ⟨u', hu', t', ht', hflag', hdefault'⟩ := find?_resolve_gathered_shared hc' hread' hs'
    rcases hraw : flags.get? (Setting.flagName name) with _ | raw
    · rw [hdefault hraw, hdefault' hraw]
      simp
    · -- both orders read the same text as a value of the same kind
      have hkind : t'.kind = t.kind :=
        hunits.kinds u' (hperm.mem_iff.mp hu') u hu name t' t ht' ht
      have hparse := hflag' raw hraw
      rw [hkind, hflag raw hraw] at hparse
      exact ⟨fun _ => Or.inl rfl, fun _ => (Option.some.inj hparse).symm⟩

/-- A unit with a shared setting of this default. -/
def sharer (id default : String) : UnitSpec :=
  { id, kind := .manifest, manifest := some (id ++ ".yaml")
    settings := [{ name := "domain", kind := .string, default := some (.string default) }] }

theorem resolve_gather_perm_flag :
    ∃ i i' s s', ofCatalog ⟨{}, [sharer "a" "a.org", sharer "b" "b.org"]⟩ = .ok i ∧
      ofCatalog ⟨{}, [sharer "b" "b.org", sharer "a" "a.org"]⟩ = .ok i' ∧
      (i.gather.settings.resolve (unattended ⟨[("domain", "my.org")]⟩ {})).settings.find?
        "domain" .shared = some s ∧
      (i'.gather.settings.resolve (unattended ⟨[("domain", "my.org")]⟩ {})).settings.find?
        "domain" .shared = some s' ∧ s'.value = s.value := by
  obtain ⟨i, i', hi, hi', -, hsame⟩ :=
    @resolve_gather_perm [sharer "b" "b.org", sharer "a" "a.org"]
      ⟨{}, [sharer "a" "a.org", sharer "b" "b.org"]⟩ rfl (List.Perm.swap ..)
      ⟨[("domain", "my.org")]⟩ {}
  obtain rfl := Except.ok.inj hi
  obtain ⟨s', hs', hvalue⟩ := hsame rfl "domain" _ rfl
  exact ⟨_, i', _, s', hi, hi', rfl, hs', hvalue.mpr (Or.inl rfl)⟩

/-- Both orders of two units pass the check and are resolved without flags, and each gives the
shared setting the default of its last unit. -/
theorem resolve_gather_perm_defaults :
    (Catalog.mk {} [sharer "a" "a.org", sharer "b" "b.org"]).check = .ok () ∧
      (Catalog.mk {} [sharer "b" "b.org", sharer "a" "a.org"]).check = .ok () ∧
      ∃ i i', ofCatalog ⟨{}, [sharer "a" "a.org", sharer "b" "b.org"]⟩ = .ok i ∧
        ofCatalog ⟨{}, [sharer "b" "b.org", sharer "a" "a.org"]⟩ = .ok i' ∧
        (i.gather.settings.resolve (unattended ⟨[]⟩ {})).error = none ∧
        (i'.gather.settings.resolve (unattended ⟨[]⟩ {})).error = none ∧
        ((i.gather.settings.resolve (unattended ⟨[]⟩ {})).settings.find? "domain" .shared).map
          Setting.value = some (.string "b.org") ∧
        ((i'.gather.settings.resolve (unattended ⟨[]⟩ {})).settings.find? "domain" .shared).map
          Setting.value = some (.string "a.org") :=
  ⟨rfl, rfl, _, _, rfl, rfl, rfl, rfl, rfl, rfl⟩

end Groundwork.Installer
