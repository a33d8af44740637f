import Groundwork.Proofs.Settings.Persistence

/-!
# Where resolving breaks off

A source refuses a setting for one reason only: a flag with a text that cannot be read, a value that
is missing, or a dialogue that broke off; the computed and the fixed defaults refuse nothing
(`Source.fst_fill_eq_error_iff`).  A pass breaks off on the first setting that is refused.  The
settings before it are then as a pass over them alone leaves them, and nothing happens to it and to
those after it (`populate_of_breaksOff`).  A chain breaks off in the first pass that does, and what
it leaves is what that pass leaves (`resolve_of_error`).  `error_iff_breaksOff` puts both together.
-/

namespace Groundwork

/-! ### One setting -/

namespace Source

variable {source : Source} {s : Setting} {v : Value} {byUser : Bool} {e : SetupError}

/-- Why a source fails on a setting without a value. -/
inductive Refuses : Source → Setting → SetupError → Prop where
  /-- The text of the flag does not read as the kind. -/
  | unreadable {flags : Flags} {s : Setting} {raw : String} :
    flags.get? (Setting.flagName s.name) = some raw → Value.parse s.kind raw = none →
      Refuses (.flags flags) s (.invalidValue s.name raw s.kind)
  /-- Nothing can be missing at the end. -/
  | missing (s : Setting) : Refuses .completeness s (.missing s.name s.scope)
  /-- The question about the setting fails. -/
  | unanswered {console : Console} {facts : Option Facts} {s : Setting} {fault : IoFault} :
    ((question facts s).ask console).1 = .error fault →
      Refuses (.dialogue console facts) s (.input s.name fault)

/-- No source puts a value of another kind to a setting, so giving it does not fail. -/
theorem give_ne_error (h : v.kind = s.kind) : give s v byUser ≠ .error e := by
  rw [give_eq_ok.mpr ⟨h, rfl⟩]
  simp

theorem refuses_of_fillFromFlags {flags : Flags} (h : fillFromFlags flags s = .error e) :
    Refuses (.flags flags) s e := by
  rw [fillFromFlags] at h
  rcases hraw : flags.get? (Setting.flagName s.name) with _ | raw
  · rw [hraw] at h
    cases h
  rcases hparse : Value.parse s.kind raw with _ | v
  · simp only [hraw, hparse] at h
    cases h
    exact .unreadable hraw hparse
  · simp only [hraw, hparse] at h
    split at h
    · cases h
    · exact absurd h (give_ne_error (Value.kind_parse hparse))

/-- A computed default of another kind is not given at all. -/
theorem fillFromFacts_ne_error {facts : Facts} : fillFromFacts facts s ≠ .error e := by
  rw [fillFromFacts]
  rcases hcomputed : s.dynamicValue? facts with _ | v
  · intro h
    cases h
  · exact give_ne_error (Setting.kind_of_dynamicValue? hcomputed)

theorem fst_fillFromDialogue_eq_error_iff {console : Console} {facts : Option Facts} :
    (fillFromDialogue console facts s).1 = .error e ↔
      Refuses (.dialogue console facts) s e := by
  rw [fillFromDialogue]
  rcases hask : (question facts s).ask console with ⟨fault | v, console'⟩
  · constructor
    · intro h
      cases h
      exact .unanswered (congrArg Prod.fst hask)
    · intro h
      cases h with
      | unanswered hfault =>
        rw [hask] at hfault
        cases hfault
        rfl
  · refine iff_of_false (give_ne_error (kind_of_ask (congrArg Prod.fst hask))) ?_
    intro h
    cases h with
    | unanswered hfault =>
      rw [hask] at hfault
      cases hfault

/-- A setting that has a value is never refused, and one without a value only for these reasons. -/
theorem fst_fill_eq_error_iff :
    (source.fill s).1 = .error e ↔ s.isValid = false ∧ source.Refuses s e := by
  by_cases hs : s.isValid = true
  · rw [source.fill_of_isValid hs, hs]
    simp
  unfold fill
  rw [if_neg hs, Bool.eq_false_iff.mpr hs, eq_self_iff_true, true_and]
  cases source with
  | flags flags =>
    refine ⟨refuses_of_fillFromFlags, ?_⟩
    rintro ⟨hraw, hparse⟩
    simp only [fillFromFlags, hraw, hparse]
  | dynamic facts =>
    refine iff_of_false fillFromFacts_ne_error ?_
    rintro ⟨⟩
  | defaults =>
    refine iff_of_false (give_ne_error rfl) ?_
    rintro ⟨⟩
  | completeness =>
    constructor
    · intro h
      cases h
      exact .missing s
    · rintro ⟨⟩
      rfl
  | dialogue console facts => exact fst_fillFromDialogue_eq_error_iff

end Source

/-! ### One pass -/

namespace Settings

variable {ss : Settings} {source : Source} {s : Setting} {pre post : List Setting} {e : SetupError}

/-- A pass fails with the first error that the source has for a setting whose turn has come. -/
theorem error_populate_eq_some_iff {entries : List Setting} :
    (populate ⟨entries⟩ source).error = some e ↔
      ∃ pre s post, entries = pre ++ s :: post ∧ (populate ⟨pre⟩ source).error = none ∧
        ((populate ⟨pre⟩ source).sources.fill s).1 = .error e := by
  induction entries generalizing source with
  | nil => exact iff_of_false (Option.some_ne_none e).symm not_exists_split_nil
  | cons s rest ih =>
    rw [exists_split_cons]
    rcases hfill : source.fill s with ⟨e' | s', source'⟩
    · -- the first setting ends every pass that comes to it
      have hfirst : populate ⟨[]⟩ source = ⟨⟨[]⟩, source, none⟩ := rfl
      simp only [populate_cons_of_error hfill, hfirst, hfill, reduceCtorEq, false_and, and_false,
        exists_false, or_false, true_and, Option.some.injEq, Except.error.injEq]
    · have hfirst : ((populate ⟨[]⟩ source).sources.fill s).1 ≠ .error e := by
        show (source.fill s).1 ≠ .error e
        rw [hfill]
        simp
      simp only [hfirst, and_false, false_or, populate_cons_of_ok hfill]
      exact ih

/-- A pass breaks off on a setting: it goes through those before it, and the source as it is then
refuses this one. -/
structure BreaksOff (ss : Settings) (source : Source) (pre : List Setting) (s : Setting)
    (post : List Setting) (e : SetupError) : Prop where
  entries : ss.entries = pre ++ s :: post
  passes : (populate ⟨pre⟩ source).error = none
  pending : s.isValid = false
  refuses : (populate ⟨pre⟩ source).sources.Refuses s e

theorem error_populate_iff_breaksOff :
    (ss.populate source).error = some e ↔ ∃ pre s post, ss.BreaksOff source pre s post e := by
  refine error_populate_eq_some_iff.trans ?_
  simp only [Source.fst_fill_eq_error_iff]
  constructor
  · rintro ⟨pre, s, post, hentries, hpasses, hpending, hrefuses⟩
    exact ⟨pre, s, post, hentries, hpasses, hpending, hrefuses⟩
  · rintro ⟨pre, s, post, hstop⟩
    exact ⟨pre, s, post, hstop.entries, hstop.passes, hstop.pending, hstop.refuses⟩

/-- What the settings before the one that is refused have become stays, and nothing happens to it and
to those after it. -/
theorem populate_of_breaksOff (h : ss.BreaksOff source pre s post e) :
    ss.populate source =
      ⟨⟨(populate ⟨pre⟩ source).settings.entries ++ s :: post⟩,
        ((populate ⟨pre⟩ source).sources.fill s).2, some e⟩ := by
  obtain ⟨entries⟩ := ss
  obtain rfl : entries = pre ++ s :: post := h.entries
  have hfill := Source.fst_fill_eq_error_iff.mpr ⟨h.pending, h.refuses⟩
  rw [populate_append_of_none h.passes, populate_cons_of_error (Prod.ext hfill rfl)]

/-! ### A chain -/

variable {before after : List Source}

/-- A chain fails with the first error of a pass whose turn has come. -/
theorem error_resolve_eq_some_iff {chain : List Source} :
    (ss.resolve chain).error = some e ↔
      ∃ before source after, chain = before ++ source :: after ∧
        (ss.resolve before).error = none ∧
        ((ss.resolve before).settings.populate source).error = some e := by
  induction chain generalizing ss with
  | nil => exact iff_of_false (Option.some_ne_none e).symm not_exists_split_nil
  | cons source rest ih =>
    have hfirst : ss.resolve [] = ⟨ss, [], none⟩ := rfl
    rw [exists_split_cons]
    rcases hpass : ss.populate source with ⟨ss', source', _ | e'⟩
    · simp only [resolve_cons_of_none hpass, hfirst, hpass, reduceCtorEq, and_false, false_or]
      exact ih
    · have hstops (more : List Source) : (ss.resolve (source :: more)).error = some e' := by
        rw [resolve, hpass]
      simp only [hstops, hfirst, hpass, reduceCtorEq, false_and, and_false, exists_false, or_false,
        true_and]

/-- What the passes before the one that fails have made of the settings is what it starts from, and
the sources after it have no turn. -/
theorem resolve_of_error (hbefore : (ss.resolve before).error = none)
    (herror : ((ss.resolve before).settings.populate source).error = some e) :
    ss.resolve (before ++ source :: after) =
      ⟨((ss.resolve before).settings.populate source).settings,
        (ss.resolve before).sources ++
          ((ss.resolve before).settings.populate source).sources :: after,
        some e⟩ := by
  rw [resolve_append_of_none hbefore, resolve, herror]

/-- A pass fails just when it breaks off on some setting, with the error that the source has for that
setting.  It leaves the settings before this one as a successful pass over them alone does, and this
one and those after it as they were.  A chain fails just when one of its passes does after those
before it have succeeded, and then what that pass leaves of what they made is the result; the
sources after it are not asked. -/
theorem error_iff_breaksOff (ss : Settings) (e : SetupError) :
    (∀ source, (ss.populate source).error = some e ↔
        ∃ pre s post, ss.BreaksOff source pre s post e) ∧
      (∀ source pre s post, ss.BreaksOff source pre s post e →
        ss.populate source =
          ⟨⟨(populate ⟨pre⟩ source).settings.entries ++ s :: post⟩,
            ((populate ⟨pre⟩ source).sources.fill s).2, some e⟩) ∧
      (∀ chain, (ss.resolve chain).error = some e ↔
        ∃ before source after, chain = before ++ source :: after ∧
          (ss.resolve before).error = none ∧
          ((ss.resolve before).settings.populate source).error = some e) ∧
      ∀ before source after, (ss.resolve before).error = none →
        ((ss.resolve before).settings.populate source).error = some e →
          ss.resolve (before ++ source :: after) =
            ⟨((ss.resolve before).settings.populate source).settings,
              (ss.resolve before).sources ++
                ((ss.resolve before).settings.populate source).sources :: after,
              some e⟩ :=
  ⟨fun _ => error_populate_iff_breaksOff, fun _ _ _ _ h => populate_of_breaksOff h,
    fun _ => error_resolve_eq_some_iff, fun _ _ _ => resolve_of_error⟩

/-- The settings of `office` in the opposite order. -/
def depot : Settings :=
  ⟨office.entries.reverse⟩

/-- A command line with a text for the first setting of `depot`, and one for its second that is no
number. -/
def manyReplicas : Flags :=
  ⟨[("verbose", "loud"), ("replicas", "many")]⟩

/-- The text is stored, the number is refused, and the computed domain of the first pass stays. -/
theorem error_iff_breaksOff_depot :
    (depot.resolve [.dynamic reachableNode, .flags manyReplicas, .defaults]).error =
        some (.invalidValue "replicas" "many" .integer) ∧
      (depot.resolve [.dynamic reachableNode, .flags manyReplicas, .defaults]).settings.entries.map
          Setting.choice =
        [.given (.string "loud") true, .pending, .given (.string "10.0.0.7.nip.io") false] ∧
      (depot.resolve [.dynamic reachableNode, .flags manyReplicas, .defaults]).sources =
        [.dynamic reachableNode, .flags manyReplicas, .defaults] := by
  let reached := (depot.resolve [.dynamic reachableNode]).settings
  have hstop : ∃ pre s post, reached.BreaksOff (.flags manyReplicas) pre s post
      (.invalidValue "replicas" "many" .integer) :=
    ⟨[_], _, [_], ⟨rfl, rfl, rfl, .unreadable rfl rfl⟩⟩
  have hpass := (error_iff_breaksOff reached _).1 _ |>.mpr hstop
  have hchain := (error_iff_breaksOff depot _).2.2.2 [.dynamic reachableNode] _ [.defaults] rfl hpass
  rw [List.singleton_append] at hchain
  rw [hchain]
  exact ⟨rfl, rfl, rfl⟩

end Settings

end Groundwork
