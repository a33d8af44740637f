import Groundwork.Proofs.Settings.Filling

/-!
# The law of unattended resolution

The unattended chain is the command line, the computed defaults, the fixed defaults and the check
that nothing is missing.  Each of its sources goes through the whole list before the next one
starts; `Settings.resolve_unattended` says that the result is that of one rule for each setting by
itself (`Setting.settled`), unless the text of a flag cannot be read.  Then the first such setting
decides the error, and only the settings before it have been looked at.
-/

namespace Groundwork

/-! ### The rule for one setting -/

namespace Setting

variable (flags : Flags) (facts : Facts) (s : Setting)

/-- The text of the setting's flag, if the setting has no value and the text is not one either. -/
def refused? : Option String :=
  if s.isValid then none
  else (flags.get? (flagName s.name)).filter fun raw => (Value.parse s.kind raw).isNone

/-- The value of the setting's flag, if there is one that differs from the default. -/
def flagValue? : Option Value :=
  ((flags.get? (flagName s.name)).bind fun raw => Value.parse s.kind raw).filter
    fun v => v ≠ s.default

/-- The computed default, if it has an answer of the right kind that is not the empty text. -/
def computedDefault? : Option Value :=
  (s.dynamic.bind fun compute => (compute facts).toOption.join).filter
    fun v => v.kind = s.kind ∧ v ≠ .string ""

/-- The setting after the command line was read. -/
def flagged : Setting :=
  if s.isValid then s
  else match s.flagValue? flags with
    | some v => { s with choice := .given v true }
    | none => s

/-- The setting after the unattended chain: its value, else that of its flag, else the computed
default, else the fixed one. -/
def settled : Setting :=
  if s.isValid then s
  else match s.flagValue? flags with
    | some v => { s with choice := .given v true }
    | none => { s with choice := .given ((s.computedDefault? facts).getD s.default) false }

/-- The setting after the computed defaults. -/
def computed : Setting :=
  if s.isValid then s
  else match s.computedDefault? facts with
    | some v => { s with choice := .given v false }
    | none => s

/-- The setting after the fixed defaults. -/
def defaulted : Setting :=
  if s.isValid then s else { s with choice := .given s.default false }

theorem dynamicValue?_eq : s.dynamicValue? facts = s.computedDefault? facts := by
  have hempty (v : Value) : v.isEmpty = false ↔ v ≠ .string "" := by
    cases v with
    | string text => simp [Value.isEmpty]
    | _ => simp [Value.isEmpty]
  unfold dynamicValue? computedDefault?
  rcases s.dynamic with _ | compute
  · rfl
  · simp only [Option.bind_some]
    rcases compute facts with e | _ | v
    · rfl
    · rfl
    · simp only [Except.toOption, Option.join_some, Option.filter_some, hempty, decide_eq_true_eq]

theorem isValid_defaulted : s.defaulted.isValid = true := by
  unfold defaulted
  split
  · assumption
  · rfl

theorem isValid_settled : (s.settled flags facts).isValid = true := by
  unfold settled
  split
  · assumption
  · split <;> rfl

/-- Stage by stage, the rule is that of `settled`. -/
theorem defaulted_computed_flagged :
    ((s.flagged flags).computed facts).defaulted = s.settled flags facts := by
  by_cases hs : s.isValid = true
  · simp only [flagged, computed, defaulted, settled, hs, ↓reduceIte]
  have hgiven (v : Value) (byUser : Bool) :
      ({ s with choice := .given v byUser } : Setting).isValid = true := rfl
  unfold settled flagged
  rw [if_neg hs, if_neg hs]
  rcases hflag : s.flagValue? flags with _ | v
  · -- the flags leave the setting without a value, so the later stages look at it
    rcases hcomputed : s.computedDefault? facts with _ | v
    · simp only [computed, hs, hcomputed, defaulted, Option.getD_none, Bool.false_eq_true,
        ↓reduceIte]
    · simp only [computed, hs, hcomputed, defaulted, hgiven, Option.getD_some, Bool.false_eq_true,
        ↓reduceIte]
  · simp only [computed, defaulted, hgiven, ↓reduceIte]

end Setting

/-! ### The stages -/

namespace Source

variable {flags : Flags} {facts : Facts} {s : Setting}

/-- What is suggested is the computed default, if the facts are known, else the fixed one. -/
theorem suggestion_eq (facts : Option Facts) (s : Setting) :
    suggestion facts s = (facts.bind s.computedDefault?).getD s.default := by
  cases facts with
  | none => rfl
  | some facts => rw [suggestion, Option.bind_some, Option.bind_some, s.dynamicValue?_eq]

theorem fill_flags (h : s.refused? flags = none) :
    (Source.flags flags).fill s = (.ok (s.flagged flags), .flags flags) := by
  by_cases hs : s.isValid = true
  · rw [fill_of_isValid _ hs, Setting.flagged, if_pos hs]
  rw [Setting.refused?, if_neg hs] at h
  unfold fill Setting.flagged
  rw [if_neg hs, if_neg hs]
  simp only [fillFromFlags, Setting.flagValue?]
  rcases hraw : flags.get? (Setting.flagName s.name) with _ | raw
  · rfl
  · rcases hparse : Value.parse s.kind raw with _ | v
    · simp [hraw, hparse] at h
    · by_cases hv : v = s.default
      · simp [hparse, hv, Option.filter_some]
      · simp [hparse, hv, Option.filter_some, give_eq_ok.mpr ⟨Value.kind_parse hparse, rfl⟩]

theorem fill_flags_refused {raw : String} (h : s.refused? flags = some raw) :
    (Source.flags flags).fill s = (.error (.invalidValue s.name raw s.kind), .flags flags) := by
  unfold Setting.refused? at h
  split at h
  · cases h
  · rename_i hs
    obtain ⟨hraw, hparse⟩ := Option.filter_eq_some_iff.mp h
    unfold fill
    rw [if_neg hs]
    simp only [fillFromFlags, hraw, Option.isNone_iff_eq_none.mp hparse]

theorem fill_dynamic : (dynamic facts).fill s = (.ok (s.computed facts), .dynamic facts) := by
  by_cases hs : s.isValid = true
  · rw [fill_of_isValid _ hs, Setting.computed, if_pos hs]
  unfold fill Setting.computed
  rw [if_neg hs, if_neg hs]
  simp only [fillFromFacts]
  rcases hcomputed : s.dynamicValue? facts with _ | v
  · rw [← s.dynamicValue?_eq, hcomputed]
  · rw [← s.dynamicValue?_eq, hcomputed]
    simp only [give_eq_ok.mpr ⟨Setting.kind_of_dynamicValue? hcomputed, rfl⟩]

theorem fill_defaults : defaults.fill s = (.ok s.defaulted, .defaults) := by
  by_cases hs : s.isValid = true
  · rw [fill_of_isValid _ hs, Setting.defaulted, if_pos hs]
  unfold fill Setting.defaulted
  rw [if_neg hs, if_neg hs, give_eq_ok.mpr ⟨rfl, rfl⟩]

end Source

/-! ### The chain -/

namespace Settings

variable {source : Source} {f : Setting → Setting} {entries : List Setting}

/-- A source that stays the same and does not fail goes through the whole list. -/
theorem populateEntries_map (h : ∀ s ∈ entries, source.fill s = (.ok (f s), source)) :
    populateEntries source entries = (entries.map f, source, none) := by
  induction entries with
  | nil => rfl
  | cons s rest ih =>
    have hrest := ih fun t ht => h t (List.mem_cons_of_mem _ ht)
    rw [populateEntries, h s (List.mem_cons_self ..)]
    simp only [hrest, List.map_cons]

/-- The first setting on which it fails ends the pass. -/
theorem populateEntries_error {pre post : List Setting} {s : Setting} {e : SetupError}
    (hpre : ∀ t ∈ pre, source.fill t = (.ok (f t), source))
    (hs : source.fill s = (.error e, source)) :
    populateEntries source (pre ++ s :: post) = (pre.map f ++ s :: post, source, some e) := by
  induction pre with
  | nil =>
    rw [List.nil_append, populateEntries, hs]
    rfl
  | cons t rest ih =>
    have hrest := ih fun t' ht' => hpre t' (List.mem_cons_of_mem _ ht')
    rw [List.cons_append, populateEntries, hpre t (List.mem_cons_self ..)]
    simp only [hrest, List.map_cons, List.cons_append]

variable {ss ss' : Settings} {source' : Source} {rest : List Source} {e : SetupError}

theorem populate_map (h : ∀ s ∈ ss.entries, source.fill s = (.ok (f s), source)) :
    ss.populate source = ⟨⟨ss.entries.map f⟩, source, none⟩ := by
  rw [populate, populateEntries_map h]

theorem resolve_cons_of_none (h : ss.populate source = ⟨ss', source', none⟩) :
    ss.resolve (source :: rest) =
      ⟨(ss'.resolve rest).settings, source' :: (ss'.resolve rest).sources,
        (ss'.resolve rest).error⟩ := by
  rw [resolve, h]

theorem resolve_cons_of_some (h : ss.populate source = ⟨ss', source, some e⟩) :
    ss.resolve (source :: rest) = ⟨ss', source :: rest, some e⟩ := by
  rw [resolve, h]

/-- The sources that are asked when there is nobody to ask. -/
def unattended (flags : Flags) (facts : Facts) : List Source :=
  [.flags flags, .dynamic facts, .defaults, .completeness]

/-- The flags settle the settings one by one, if they can be read. -/
theorem populate_flags {flags : Flags} (h : ∀ s ∈ ss.entries, s.refused? flags = none) :
    ss.populate (.flags flags) = ⟨⟨ss.entries.map (Setting.flagged flags)⟩, .flags flags, none⟩ :=
  populate_map fun s hs => Source.fill_flags (h s hs)

/-- The first text that cannot be read ends the pass. -/
theorem populate_flags_refused {flags : Flags} {pre post : List Setting} {s : Setting}
    {raw : String} (hentries : ss.entries = pre ++ s :: post)
    (hpre : ∀ t ∈ pre, t.refused? flags = none) (hs : s.refused? flags = some raw) :
    ss.populate (.flags flags) =
      ⟨⟨pre.map (Setting.flagged flags) ++ s :: post⟩, .flags flags,
        some (.invalidValue s.name raw s.kind)⟩ := by
  rw [populate, hentries, populateEntries_error (f := Setting.flagged flags)
    (fun t ht => Source.fill_flags (hpre t ht)) (Source.fill_flags_refused hs)]

/-- Where every setting has a value, no source has anything to do. -/
theorem populate_of_isValid (source : Source) (h : ∀ s ∈ ss.entries, s.isValid = true) :
    ss.populate source = ⟨ss, source, none⟩ := by
  have hid : ss.populate source = ⟨⟨ss.entries.map id⟩, source, none⟩ :=
    populate_map fun s hs => Source.fill_of_isValid _ (h s hs)
  rw [hid, List.map_id]

theorem resolve_unattended_of_readable {flags : Flags} (facts : Facts)
    (h : ∀ s ∈ ss.entries, s.refused? flags = none) :
    ss.resolve (unattended flags facts) =
      ⟨⟨ss.entries.map (Setting.settled flags facts)⟩, unattended flags facts, none⟩ := by
  have hfacts (entries : List Setting) : populate ⟨entries⟩ (.dynamic facts) =
      ⟨⟨entries.map (Setting.computed facts)⟩, .dynamic facts, none⟩ :=
    populate_map fun _ _ => Source.fill_dynamic
  have hdefaults (entries : List Setting) : populate ⟨entries⟩ .defaults =
      ⟨⟨entries.map Setting.defaulted⟩, .defaults, none⟩ :=
    populate_map fun _ _ => Source.fill_defaults
  -- after the fixed defaults nothing is missing
  have hcomplete (entries : List Setting) : populate ⟨entries.map Setting.defaulted⟩ .completeness =
      ⟨⟨entries.map Setting.defaulted⟩, .completeness, none⟩ := by
    apply populate_of_isValid
    intro s hs
    obtain ⟨t, -, rfl⟩ := List.mem_map.mp hs
    exact t.isValid_defaulted
  have hsettled : ((ss.entries.map (Setting.flagged flags)).map (Setting.computed facts)).map
      Setting.defaulted = ss.entries.map (Setting.settled flags facts) := by
    rw [List.map_map, List.map_map]
    apply List.map_congr_left
    intro s _
    exact s.defaulted_computed_flagged flags facts
  rw [unattended, resolve_cons_of_none (populate_flags h), resolve_cons_of_none (hfacts _),
    resolve_cons_of_none (hdefaults _), resolve_cons_of_none (hcomplete _), hsettled]
  rfl

theorem resolve_unattended_of_refused {flags : Flags} (facts : Facts) {pre post : List Setting}
    {s : Setting} {raw : String} (hentries : ss.entries = pre ++ s :: post)
    (hpre : ∀ t ∈ pre, t.refused? flags = none) (hs : s.refused? flags = some raw) :
    ss.resolve (unattended flags facts) =
      ⟨⟨pre.map (Setting.flagged flags) ++ s :: post⟩, unattended flags facts,
        some (.invalidValue s.name raw s.kind)⟩ :=
  resolve_cons_of_some (populate_flags_refused hentries hpre hs)

theorem exists_first_refused {flags : Flags} {entries : List Setting}
    (h : ¬∀ s ∈ entries, s.refused? flags = none) :
    ∃ pre s post raw, entries = pre ++ s :: post ∧ (∀ t ∈ pre, t.refused? flags = none) ∧
      s.refused? flags = some raw := by
  rw [← List.findSome?_eq_none_iff] at h
  obtain ⟨raw, hraw⟩ := Option.ne_none_iff_exists'.mp h
  obtain ⟨pre, s, post, hentries, hs, hpre⟩ := List.findSome?_eq_some_iff.mp hraw
  exact ⟨pre, s, post, raw, hentries, hpre, hs⟩

/-- The unattended chain fails just when the text of some flag cannot be read, on the first setting
with such a text and before anything but flags was looked at.  Otherwise it settles every setting by
the rule for one.  Nothing but the choices ever changes. -/
theorem resolve_unattended (ss : Settings) (flags : Flags) (facts : Facts) :
    ((ss.resolve (unattended flags facts)).error ≠ none ↔
      ∃ s ∈ ss.entries, (s.refused? flags).isSome = true) ∧
    ((∃ pre s post raw, ss.entries = pre ++ s :: post ∧ (∀ t ∈ pre, t.refused? flags = none) ∧
        s.refused? flags = some raw ∧
        (ss.resolve (unattended flags facts)).error = some (.invalidValue s.name raw s.kind) ∧
        (ss.resolve (unattended flags facts)).settings.entries =
          pre.map (Setting.flagged flags) ++ s :: post) ∨
      (ss.resolve (unattended flags facts)).error = none ∧
        (ss.resolve (unattended flags facts)).settings.entries =
          ss.entries.map (Setting.settled flags facts) ∧
        ∀ s ∈ (ss.resolve (unattended flags facts)).settings.entries, s.isValid = true) ∧
    (ss.resolve (unattended flags facts)).settings.entries.map Setting.reset =
      ss.entries.map Setting.reset := by
  have hreset : (ss.resolve (unattended flags facts)).settings.entries.map Setting.reset =
      ss.entries.map Setting.reset :=
    map_reset_of_fills (ss.resolve_fills (unattended flags facts))
  -- either every flag can be read, or the first that cannot ends the chain
  by_cases h : ∀ s ∈ ss.entries, s.refused? flags = none
  · have hrun := resolve_unattended_of_readable facts h
    refine ⟨?_, Or.inr ⟨?_, ?_, ?_⟩, hreset⟩
    · rw [hrun]
      constructor
      · intro hne
        exact absurd rfl hne
      · rintro ⟨s, hs, hrefused⟩
        rw [h s hs] at hrefused
        cases hrefused
    · rw [hrun]
    · rw [hrun]
    · rw [hrun]
      intro s hs
      obtain ⟨t, -, rfl⟩ := List.mem_map.mp hs
      exact t.isValid_settled flags facts
  · obtain ⟨pre, s, post, raw, hentries, hpre, hs⟩ := exists_first_refused h
    have hrun := resolve_unattended_of_refused facts hentries hpre hs
    refine ⟨?_, Or.inl ⟨pre, s, post, raw, hentries, hpre, hs, ?_, ?_⟩, hreset⟩
    · rw [hrun]
      constructor
      · intro _
        refine ⟨s, ?_, Option.isSome_iff_exists.mpr ⟨raw, hs⟩⟩
        rw [hentries]
        exact List.mem_append_right _ (List.mem_cons_self ..)
      · intro _ hnone
        cases hnone
    · rw [hrun]
    · rw [hrun]

end Settings

end Groundwork
