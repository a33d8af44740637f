import Groundwork.CommandLine.SystemDomain
import Groundwork.Proofs.Settings.Resolution

/-!
# Which source decides a value

In the unattended chain a flag comes before the defaults, but a flag that says the fixed default
counts as not given, so a computed default comes before such a flag.  `resolve_unattended_flags`
says what becomes of every setting whose flag was given, and `value_settled_of_not_dynamic` that the
order of the sources does not matter to a setting without a computed default: then the flag decides
in any case.
-/

namespace Groundwork

/-! ### One setting -/

namespace Setting

variable {flags : Flags} {facts : Facts} {s : Setting} {raw : String} {v : Value}

theorem key_settled (flags : Flags) (facts : Facts) (s : Setting) :
    (s.settled flags facts).key = s.key := by
  unfold settled
  split
  · rfl
  · split <;> rfl

/-- Of a setting without a value, the flag decides first, then the computed default, then the fixed
one. -/
theorem value_settled (hs : s.isValid = false) :
    (s.settled flags facts).value =
      (s.flagValue? flags).getD ((s.computedDefault? facts).getD s.default) := by
  have hpending : ¬s.isValid = true := Bool.eq_false_iff.mp hs
  unfold settled
  rw [if_neg hpending]
  cases s.flagValue? flags with
  | some v => rfl
  | none => rfl

/-- A text that can be read counts, unless it says the default. -/
theorem flagValue?_of_parse (hraw : flags.get? (flagName s.name) = some raw)
    (hparse : Value.parse s.kind raw = some v) :
    s.flagValue? flags = if v = s.default then none else some v := by
  simp only [flagValue?, hraw, Option.bind_some, hparse]
  by_cases hv : v = s.default
  · simp [hv, Option.filter_some]
  · simp [hv, Option.filter_some]

/-- A text that is not refused can be read. -/
theorem exists_parse_of_refused?_eq_none (hs : s.isValid = false)
    (hraw : flags.get? (flagName s.name) = some raw) (h : s.refused? flags = none) :
    ∃ v, Value.parse s.kind raw = some v := by
  have hpending : ¬s.isValid = true := Bool.eq_false_iff.mp hs
  rw [refused?, if_neg hpending, hraw, Option.filter_some] at h
  rcases hparse : Value.parse s.kind raw with _ | v
  · simp [hparse] at h
  · exact ⟨v, rfl⟩

/-- Whether a text is refused depends on the name and the kind alone. -/
theorem refused?_congr {t : Setting} (hvalid : s.isValid = t.isValid) (hname : s.name = t.name)
    (hkind : s.kind = t.kind) : s.refused? flags = t.refused? flags := by
  rw [refused?, refused?, hvalid, hname, hkind]

/-- Without a computed default a flag decides even if it says the fixed default. -/
theorem value_settled_of_not_dynamic (hs : s.isValid = false) (hdynamic : s.dynamic = none)
    (h : s.refused? flags = none) :
    (s.settled flags facts).value =
      ((flags.get? (flagName s.name)).bind fun raw => Value.parse s.kind raw).getD s.default := by
  have hcomputed : s.computedDefault? facts = none := by
    rw [computedDefault?, hdynamic]
    rfl
  rw [value_settled hs, hcomputed, Option.getD_none]
  rcases hraw : flags.get? (flagName s.name) with _ | raw
  · rw [flagValue?, hraw]
    rfl
  · obtain ⟨v, hparse⟩ := exists_parse_of_refused?_eq_none hs hraw h
    rw [flagValue?_of_parse hraw hparse, Option.bind_some, hparse, Option.getD_some]
    -- a flag that says the default is dropped, and the default is put in its place
    by_cases hv : v = s.default
    · rw [if_pos hv, Option.getD_none, hv]
    · rw [if_neg hv, Option.getD_some]

end Setting

/-! ### The chain -/

namespace Settings

variable {ss : Settings} {flags : Flags} {facts : Facts}

/-- The unattended chain succeeds just when every text that it needs can be read. -/
theorem error_unattended_eq_none_iff :
    (ss.resolve (unattended flags facts)).error = none ↔
      ∀ s ∈ ss.entries, s.refused? flags = none := by
  constructor
  · intro h
    by_contra hrefused
    obtain ⟨pre, s, post, raw, hentries, hpre, hs⟩ := exists_first_refused hrefused
    rw [resolve_unattended_of_refused facts hentries hpre hs] at h
    cases h
  · intro h
    rw [resolve_unattended_of_readable facts h]

/-- Where the unattended chain succeeds, every setting without a value whose flag was given ends
with what the flag says.  Only if that is the fixed default may a computed one come before it. -/
theorem resolve_unattended_flags (h : (ss.resolve (unattended flags facts)).error = none) :
    List.Forall₂
      (fun s s' : Setting => s'.key = s.key ∧
        ∀ raw, s.isValid = false → flags.get? (Setting.flagName s.name) = some raw →
          s'.isValid = true ∧ ∃ v, Value.parse s.kind raw = some v ∧
            (v ≠ s.default → s'.value = v) ∧
            (v = s.default → s'.value = (s.computedDefault? facts).getD v))
      ss.entries (ss.resolve (unattended flags facts)).settings.entries := by
  have hreadable := error_unattended_eq_none_iff.mp h
  rw [resolve_unattended_of_readable facts hreadable]
  rw [List.forall₂_map_right_iff, List.forall₂_same]
  intro s hmem
  refine ⟨s.key_settled flags facts, ?_⟩
  intro raw hs hraw
  obtain ⟨v, hparse⟩ := Setting.exists_parse_of_refused?_eq_none hs hraw (hreadable s hmem)
  refine ⟨s.isValid_settled flags facts, v, hparse, ?_, ?_⟩
  · intro hv
    rw [Setting.value_settled hs, Setting.flagValue?_of_parse hraw hparse, if_neg hv,
      Option.getD_some]
  · intro hv
    rw [Setting.value_settled hs, Setting.flagValue?_of_parse hraw hparse, if_pos hv,
      Option.getD_none, hv]

/-- The settings of a platform with a domain of its own; the domain still has its computed
default. -/
def ownDomain : Settings :=
  CommandLine.attachDefaults
    ⟨[{ name := CommandLine.systemDomain, default := .string "example.com" }]⟩

/-- A command line that gives the domain. -/
def domainGiven (domain : String) : Flags :=
  ⟨[("system-domain", domain)]⟩

/-- A cluster whose first node has an address. -/
def reachableNode : Facts :=
  { externalIps := ["10.0.0.7"] }

theorem resolve_unattended_flags_domain :
    (ownDomain.resolve (unattended (domainGiven "my.org") reachableNode)).error = none ∧
      ∃ s ∈ (ownDomain.resolve
          (unattended (domainGiven "my.org") reachableNode)).settings.entries,
        s.name = "system_domain" ∧ s.value = .string "my.org" := by
  have hsuccess :
      (ownDomain.resolve (unattended (domainGiven "my.org") reachableNode)).error = none := rfl
  refine ⟨hsuccess, ?_⟩
  obtain ⟨s', hmem, hkey, hflag⟩ :=
    exists_of_mem_left (resolve_unattended_flags hsuccess) (List.mem_singleton_self _)
  obtain ⟨-, v, hparse, hvalue, -⟩ := hflag "my.org" rfl rfl
  obtain rfl : Value.string "my.org" = v := Option.some.inj hparse
  exact ⟨s', hmem, congrArg Prod.fst hkey, hvalue (by decide)⟩

/-- A flag that names the platform's own domain is overruled: the chain succeeds, and the domain is
the one computed from the first address. -/
theorem resolve_unattended_flag_overruled :
    (ownDomain.resolve (unattended (domainGiven "example.com") reachableNode)).error = none ∧
      ¬List.Forall₂
        (fun s s' : Setting => ∀ raw v, s.isValid = false →
          (domainGiven "example.com").get? (Setting.flagName s.name) = some raw →
          Value.parse s.kind raw = some v → s'.value = v)
        ownDomain.entries
        (ownDomain.resolve (unattended (domainGiven "example.com") reachableNode)).settings.entries ∧
      (ownDomain.resolve (unattended (domainGiven "example.com")
          reachableNode)).settings.entries.map (fun s => (s.name, s.value)) =
        [("system_domain", .string "10.0.0.7.nip.io")] := by
  refine ⟨rfl, ?_, rfl⟩
  intro hwins
  obtain ⟨s', hmem, hflag⟩ := exists_of_mem_left hwins (List.mem_singleton_self _)
  have hvalue : s'.value = .string "example.com" := hflag "example.com" _ rfl rfl rfl
  obtain rfl := List.mem_singleton.mp hmem
  exact absurd hvalue (by decide)

end Settings

end Groundwork
