import Groundwork.CommandLine.Grammar
import Groundwork.Proofs.CommandLine.Reading
import Groundwork.Proofs.Settings.Filling

/-!
# Flags reach their settings

Names become flags three times: when flags are declared, when their texts are collected, and when a
setting is filled.  Several names can become one flag.  The declared flags are the distinct ones that
the program does not need for itself (`map_name_settingFlags`); what is collected gives for each of
them the text that the parser has for it (`get?_flagTexts`); and how settings are filled from flags
depends on the texts of their own flags alone (`populate_flags_congr`).

`flags_reach_settings` puts the three together, for a parser that hands back what was given.  Reading
arguments does that (`populate_parse_attached`), as the flags that the program needs for itself are
reserved.
-/

namespace Groundwork

namespace Flags

variable {given : List (String × String)} {flag other text : String}

theorem get?_append_singleton :
    get? ⟨given ++ [(flag, text)]⟩ other = if flag = other then some text else get? ⟨given⟩ other := by
  by_cases h : flag = other
  · simp [get?, h]
  · simp [get?, h]

theorem isSome_get? : (get? ⟨given⟩ flag).isSome = Table.has given flag := by
  rw [get?, Option.isSome_map, List.isSome_find?, List.any_reverse, Table.has]

/-- Where every flag is given once, it does not matter which text is the last. -/
theorem get?_of_nodup (h : (given.map Prod.fst).Nodup) :
    get? ⟨given⟩ flag = Table.get? given flag := by
  induction given with
  | nil => rfl
  | cons pair rest ih =>
    obtain ⟨hfresh, hrest⟩ := List.nodup_cons.mp h
    have hcons : get? ⟨pair :: rest⟩ flag =
        (get? ⟨rest⟩ flag).or (if pair.1 = flag then some pair.2 else none) := by
      by_cases hpair : pair.1 = flag
      · simp [get?, List.find?_append, hpair]
      · simp [get?, List.find?_append, hpair]
    rw [hcons, ih hrest]
    by_cases hpair : pair.1 = flag
    · have hnone : Table.get? rest flag = none := by
        rw [Table.get?_eq_none_iff, Table.has, List.any_eq_false]
        intro other hother heq
        exact hfresh (hpair.trans (of_decide_eq_true heq).symm ▸ List.mem_map_of_mem hother)
      rw [hnone, Option.none_or, if_pos hpair]
      simp [Table.get?, hpair]
    · simp [Table.get?, hpair]

end Flags

/-! ### Filling from flags -/

namespace Source

variable {flags flags' : Flags} {s : Setting}

/-- Only the text of its own flag matters to a setting. -/
theorem fst_fill_flags_congr
    (h : flags.get? (Setting.flagName s.name) = flags'.get? (Setting.flagName s.name)) :
    ((Source.flags flags).fill s).1 = ((Source.flags flags').fill s).1 := by
  unfold fill
  split
  · rfl
  · simp only [fillFromFlags, h]

theorem snd_fill_flags (flags : Flags) (s : Setting) :
    ((Source.flags flags).fill s).2 = .flags flags := by
  unfold fill
  split <;> rfl

theorem fill_flags_of_absent (h : flags.get? (Setting.flagName s.name) = none) :
    (Source.flags flags).fill s = (.ok s, .flags flags) := by
  unfold fill
  split
  · rfl
  · simp only [fillFromFlags, h]

end Source

namespace Settings

variable {flags flags' : Flags} {entries : List Setting}

/-- Flags that agree on the flags of the settings fill them alike. -/
theorem populate_flags_congr
    (h : ∀ s ∈ entries, flags.get? (Setting.flagName s.name) =
      flags'.get? (Setting.flagName s.name)) :
    (populate ⟨entries⟩ (.flags flags)).error = (populate ⟨entries⟩ (.flags flags')).error ∧
      (populate ⟨entries⟩ (.flags flags)).settings =
        (populate ⟨entries⟩ (.flags flags')).settings := by
  induction entries with
  | nil => exact ⟨rfl, rfl⟩
  | cons s rest ih =>
    have hsame := Source.fst_fill_flags_congr (h s (List.mem_cons_self ..))
    obtain ⟨herror, hsettings⟩ := ih fun t ht => h t (List.mem_cons_of_mem _ ht)
    rcases hfill : ((Source.flags flags).fill s).1 with e | s'
    · rw [hfill] at hsame
      rw [populate_cons_of_error (Prod.ext hfill (Source.snd_fill_flags flags s)),
        populate_cons_of_error (Prod.ext hsame.symm (Source.snd_fill_flags flags' s))]
      exact ⟨rfl, rfl⟩
    · rw [hfill] at hsame
      rw [populate_cons_of_ok (Prod.ext hfill (Source.snd_fill_flags flags s)),
        populate_cons_of_ok (Prod.ext hsame.symm (Source.snd_fill_flags flags' s)), herror,
        hsettings]
      exact ⟨rfl, rfl⟩

/-- A setting whose flag has no text stays as it is, also when another one fails. -/
theorem populate_flags_of_absent (flags : Flags) (entries : List Setting) :
    List.Forall₂ (fun s s' : Setting => flags.get? (Setting.flagName s.name) = none → s' = s)
      entries (populate ⟨entries⟩ (.flags flags)).settings.entries := by
  induction entries with
  | nil => exact .nil
  | cons s rest ih =>
    rcases hfill : ((Source.flags flags).fill s).1 with e | s'
    · rw [populate_cons_of_error (Prod.ext hfill (Source.snd_fill_flags flags s))]
      exact List.forall₂_same.mpr fun _ _ _ => rfl
    · rw [populate_cons_of_ok (Prod.ext hfill (Source.snd_fill_flags flags s))]
      refine .cons (fun habsent => ?_) ih
      rw [Source.fill_flags_of_absent habsent] at hfill
      cases hfill
      rfl

/-- The flags of the settings, in order; settings may share one. -/
def flagNames (ss : Settings) : List String :=
  ss.entries.map fun s => Setting.flagName s.name

end Settings

namespace CommandLine

/-! ### Declaring flags -/

theorem nodup_eraseDups {α : Type} [DecidableEq α] : ∀ l : List α, l.eraseDups.Nodup
  | [] => List.nodup_nil
  | a :: rest => by
    rw [List.eraseDups_cons, List.nodup_cons]
    exact ⟨by simp, nodup_eraseDups (rest.filter fun b => !b == a)⟩
termination_by l => l.length
decreasing_by exact Nat.lt_succ_of_le (List.length_filter_le ..)

theorem map_name_declareFlags (seen : List String) (entries : List Setting) :
    (declareFlags seen entries).map ArgOption.name =
      ((entries.map fun s => Setting.flagName s.name).filter fun flag =>
        !reservedFlags.contains flag && !seen.contains flag).eraseDups := by
  induction entries generalizing seen with
  | nil => rfl
  | cons s rest ih =>
    rw [declareFlags, List.map_cons]
    by_cases hdrop : (reservedFlags.contains (Setting.flagName s.name) ||
        seen.contains (Setting.flagName s.name)) = true
    · rw [if_pos hdrop, ih, List.filter_cons_of_neg]
      rwa [← Bool.not_or, Bool.not_eq_true', Bool.not_eq_false]
    · rw [if_neg hdrop, List.map_cons, ih, List.filter_cons_of_pos, List.eraseDups_cons,
        List.filter_filter]
      · congr 3
        funext flag
        rw [List.contains_cons, Bool.not_or, Bool.and_left_comm, Bool.and_comm]
      · rwa [← Bool.not_or, Bool.not_eq_true', ← Bool.not_eq_true]

/-- The declared flags are those of the settings, without the reserved ones, each where it comes
first. -/
theorem map_name_settingFlags (ss : Settings) :
    (settingFlags ss).map ArgOption.name =
      (ss.flagNames.filter fun flag => flag ∉ reservedFlags).eraseDups := by
  rw [settingFlags, map_name_declareFlags, Settings.flagNames]
  congr 2
  funext flag
  simp

theorem mem_settingFlags_iff {ss : Settings} {flag : String} :
    flag ∈ (settingFlags ss).map ArgOption.name ↔ flag ∈ ss.flagNames ∧ flag ∉ reservedFlags := by
  rw [map_name_settingFlags, List.mem_eraseDups, List.mem_filter, decide_eq_true_eq]

/-! ### Collecting texts -/

section Collecting

variable {text? : String → Option String}

/-- What was found stays, and the first setting with a flag adds the text of the flag. -/
theorem get?_collectTexts (found : List (String × String)) (entries : List Setting)
    (flag : String) :
    Flags.get? ⟨collectTexts text? found entries⟩ flag =
      (Flags.get? ⟨found⟩ flag).or
        (if ∃ s ∈ entries, Setting.flagName s.name = flag then text? flag else none) := by
  induction entries generalizing found with
  | nil => simp [collectTexts]
  | cons s rest ih =>
    simp only [List.exists_mem_cons_iff]
    rw [collectTexts]
    by_cases hflag : Setting.flagName s.name = flag
    · -- its text is found already, it is found now, or there is none
      simp only [hflag, true_or, ↓reduceIte]
      by_cases hfound : Table.has found flag = true
      · obtain ⟨text, htext⟩ := Option.isSome_iff_exists.mp (Flags.isSome_get?.trans hfound)
        rw [if_pos hfound, ih, htext, Option.some_or, Option.some_or]
      · have hnone : Flags.get? ⟨found⟩ flag = none := by
          rw [← Option.not_isSome_iff_eq_none, Flags.isSome_get?]
          exact hfound
        rw [if_neg hfound, hnone, Option.none_or]
        rcases htext : text? flag with _ | text
        · simp only [ih, hnone, htext, Option.none_or, ite_self]
        · simp only [ih, Flags.get?_append_singleton, ↓reduceIte, Option.some_or]
    · simp only [hflag, false_or]
      split
      · exact ih found
      · split
        · rw [ih, Flags.get?_append_singleton, if_neg hflag]
        · exact ih found

theorem get?_flagTexts (ss : Settings) (flag : String) :
    (flagTexts ss text?).get? flag = if flag ∈ ss.flagNames then text? flag else none := by
  rw [flagTexts, get?_collectTexts]
  simp [Flags.get?, Settings.flagNames]

end Collecting

/-! ### Reading arguments -/

/-- A declared flag takes any text. -/
theorem takes_of_mem_settingFlags {ss : Settings} {o : ArgOption} (h : o ∈ settingFlags ss) :
    o.arity ≠ .switch ∧ ∀ text, o.accepts text = true := by
  have hflag : ∀ seen entries, o ∈ declareFlags seen entries → ∃ s, o = settingFlag s := by
    intro seen entries
    induction entries generalizing seen with
    | nil => exact fun hmem => nomatch hmem
    | cons s rest ih =>
      intro hmem
      rw [declareFlags] at hmem
      split at hmem
      · exact ih _ hmem
      · exact (List.mem_cons.mp hmem).elim (fun heq => ⟨s, heq⟩) (ih _)
  obtain ⟨s, rfl⟩ := hflag [] ss.entries h
  refine ⟨?_, fun _ => rfl⟩
  show settingArity s.kind ≠ .switch
  cases s.kind <;> exact nofun

/-- The commands that apply a platform take a text for each declared flag, since what they know
besides is reserved. -/
theorem takesText_options {ss : Settings} {c : CommandName} (hc : c = .install ∨ c = .upgrade)
    {flag : String} (hflag : flag ∈ (settingFlags ss).map ArgOption.name)
    (hnamed : '=' ∉ flag.toList) : TakesText (c.options ss) flag := by
  refine ⟨hnamed, ?_⟩
  have hown : (c.ownOptions ++ commonOptions ++ [helpOption, versionOption]).find?
      (fun o => o.name = flag) = none := by
    have hreserved : ∀ o ∈ c.ownOptions ++ commonOptions ++ [helpOption, versionOption],
        o.name ∈ reservedFlags := by
      rcases hc with rfl | rfl <;> decide
    rw [List.find?_eq_none]
    intro o ho heq
    rw [← of_decide_eq_true heq] at hflag
    exact (mem_settingFlags_iff.mp hflag).2 (hreserved o ho)
  have hflags : c.flags ss = settingFlags ss := by
    rcases hc with rfl | rfl <;> rfl
  obtain ⟨o, ho, rfl⟩ := List.mem_map.mp hflag
  have hsome : ((settingFlags ss).find? fun other => other.name = o.name).isSome = true :=
    List.find?_isSome.mpr ⟨o, ho, decide_eq_true rfl⟩
  obtain ⟨found, hfound⟩ := Option.isSome_iff_exists.mp hsome
  refine ⟨found, ?_, takes_of_mem_settingFlags (List.mem_of_find?_eq_some hfound)⟩
  rw [CommandName.options, List.find?_append, hown, Option.none_or, hflags, hfound]

/-! ### From the parser to the settings -/

section Handing

variable {ss : Settings} {given : Flags} {text? : String → Option String}

theorem get?_of_reserved
    (hgiven : ∀ pair ∈ given.given, pair.1 ∈ (settingFlags ss).map ArgOption.name) {flag : String}
    (hflag : flag ∈ reservedFlags) : given.get? flag = none := by
  rw [← Option.not_isSome_iff_eq_none, Flags.isSome_get?, Table.has, List.any_eq_true]
  rintro ⟨pair, hpair, heq⟩
  rw [← of_decide_eq_true heq] at hflag
  exact (mem_settingFlags_iff.mp (hgiven pair hpair)).2 hflag

/-- What the parser has for the flag of a setting was given for it. -/
theorem get?_flagTexts_of_mem
    (hgiven : ∀ pair ∈ given.given, pair.1 ∈ (settingFlags ss).map ArgOption.name)
    (hdeclared : ∀ flag ∈ (settingFlags ss).map ArgOption.name, text? flag = given.get? flag)
    (hreserved : ∀ flag ∈ reservedFlags, text? flag = none) :
    ∀ s ∈ ss.entries, (flagTexts ss text?).get? (Setting.flagName s.name) =
      given.get? (Setting.flagName s.name) := by
  intro s hs
  have hmem : Setting.flagName s.name ∈ ss.flagNames := List.mem_map_of_mem hs
  rw [get?_flagTexts, if_pos hmem]
  by_cases hflag : Setting.flagName s.name ∈ reservedFlags
  · rw [hreserved _ hflag, get?_of_reserved hgiven hflag]
  · exact hdeclared _ (mem_settingFlags_iff.mpr ⟨hmem, hflag⟩)

end Handing

/-- The declared flags are the distinct flags of the settings that the program does not need for
itself, each once and in the order in which they come first.  Let some of them be given texts, and
let the parser hand back for a declared flag just the text that it was given, and no text for the
program's own options.  Then the settings are filled as if they were filled from the given texts
themselves, with the same error if there is one: every setting finds the text of its own flag, also
where several share one, and a setting whose flag is reserved or was not given stays as it is. -/
theorem flags_reach_settings (ss : Settings) :
    (settingFlags ss).map ArgOption.name =
        (ss.flagNames.filter fun flag => flag ∉ reservedFlags).eraseDups ∧
      ((settingFlags ss).map ArgOption.name).Nodup ∧
      ∀ (given : Flags) (text? : String → Option String),
        (∀ pair ∈ given.given, pair.1 ∈ (settingFlags ss).map ArgOption.name) →
        (∀ flag ∈ (settingFlags ss).map ArgOption.name, text? flag = given.get? flag) →
        (∀ flag ∈ reservedFlags, text? flag = none) →
        (ss.populate (.flags (flagTexts ss text?))).error =
            (ss.populate (.flags given)).error ∧
          (ss.populate (.flags (flagTexts ss text?))).settings =
            (ss.populate (.flags given)).settings ∧
          (∀ s ∈ ss.entries, (flagTexts ss text?).get? (Setting.flagName s.name) =
            given.get? (Setting.flagName s.name)) ∧
          List.Forall₂ (fun s s' : Setting =>
              Setting.flagName s.name ∈ reservedFlags ∨
                given.get? (Setting.flagName s.name) = none → s' = s)
            ss.entries (ss.populate (.flags (flagTexts ss text?))).settings.entries := by
  refine ⟨map_name_settingFlags ss, ?_, ?_⟩
  · rw [map_name_settingFlags]
    exact nodup_eraseDups _
  intro given text? hgiven hdeclared hreserved
  have hsame := get?_flagTexts_of_mem hgiven hdeclared hreserved
  obtain ⟨herror, hsettings⟩ := Settings.populate_flags_congr hsame
  refine ⟨herror, hsettings, hsame, ?_⟩
  -- a flag that is reserved was not given either
  rw [hsettings]
  refine (Settings.populate_flags_of_absent given ss.entries).imp fun s s' hkeeps h => hkeeps ?_
  exact h.elim (get?_of_reserved hgiven) id

/-- Two settings that share a flag, one whose flag is reserved, and one that is not given. -/
def namesakes : Settings where
  entries :=
    [{ name := "a_b", default := .string "" },
     { name := "verbose", default := .bool false },
     { name := "a-b", scope := .unit "git", default := .int 0 },
     { name := "host", default := .string "git.local" }]

/-- What is read of `--a-b=7 --verbose`. -/
def namesakesRead : OptionValues where
  taken := [("a-b", "7"), ("verbose", "true")]

/-- Both namesakes get the text, each as its kind, and the setting named like an option of the
program's gets none. -/
theorem flags_reach_settings_namesakes :
    (settingFlags namesakes).map ArgOption.name = ["a-b", "host"] ∧
    (∀ pair ∈ [("a-b", "7")], pair.1 ∈ (settingFlags namesakes).map ArgOption.name) ∧
    (∀ flag ∈ (settingFlags namesakes).map ArgOption.name,
      namesakesRead.text? flag = Flags.get? ⟨[("a-b", "7")]⟩ flag) ∧
    (∀ flag ∈ reservedFlags, namesakesRead.text? flag = none) ∧
    (namesakes.populate (.flags (flagTexts namesakes namesakesRead.text?))).settings =
      (namesakes.populate (.flags ⟨[("a-b", "7")]⟩)).settings ∧
    (namesakes.populate (.flags ⟨[("a-b", "7")]⟩)).settings.entries.map Setting.choice =
      [.given (.string "7") true, .pending, .given (.int 7) true, .pending] := by
  have hnames : (settingFlags namesakes).map ArgOption.name = ["a-b", "host"] := by decide +kernel
  have hgiven : ∀ pair ∈ [("a-b", "7")],
      pair.1 ∈ (settingFlags namesakes).map ArgOption.name := by
    rw [hnames]
    decide
  have hdeclared : ∀ flag ∈ (settingFlags namesakes).map ArgOption.name,
      namesakesRead.text? flag = Flags.get? ⟨[("a-b", "7")]⟩ flag := by
    rw [hnames]
    decide
  have hreserved : ∀ flag ∈ reservedFlags, namesakesRead.text? flag = none := by decide
  exact ⟨hnames, hgiven, hdeclared, hreserved,
    ((flags_reach_settings namesakes).2.2 _ _ hgiven hdeclared hreserved).2.1, by decide +kernel⟩

/-- The library's own parser hands back what it was given: where different flags of settings are
given texts on the command line, the settings are filled from just these texts. -/
theorem populate_parse_attached {ss : Settings} {c : CommandName}
    (hc : c = .install ∨ c = .upgrade) {given : List (String × String)}
    (hgiven : ∀ pair ∈ given, pair.1 ∈ (settingFlags ss).map ArgOption.name)
    (hnamed : ∀ pair ∈ given, '=' ∉ pair.1.toList) (hdistinct : (given.map Prod.fst).Nodup) :
    ∃ values, OptionValues.parse (c.options ss) [] (given.map attached) = .ok values ∧
      (ss.populate (.flags (givenFlags ss values))).error = (ss.populate (.flags ⟨given⟩)).error ∧
      (ss.populate (.flags (givenFlags ss values))).settings =
        (ss.populate (.flags ⟨given⟩)).settings := by
  refine ⟨⟨given, []⟩, ?_, ?_⟩
  · apply parse_attached
    · exact fun pair hpair => takesText_options hc (hgiven pair hpair) (hnamed pair hpair)
    · exact hdistinct
  · apply Settings.populate_flags_congr
    apply get?_flagTexts_of_mem hgiven
    · intro flag hflag
      have hfree := (mem_settingFlags_iff.mp hflag).2
      rw [OptionValues.text?, if_neg (by simpa using hfree), Flags.get?_of_nodup hdistinct]
    · intro flag hflag
      rw [OptionValues.text?, if_pos (by simpa using hflag)]

end CommandLine

end Groundwork
