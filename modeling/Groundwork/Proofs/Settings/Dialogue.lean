import Groundwork.Proofs.Settings.Precedence

/-!
# Answering nothing

A user who answers every question with a blank line takes what is suggested, and what is suggested
is what the unattended chain would have put there.  `populate_dialogue_blank` says what such a
dialogue makes of a list of settings: it asks once about each setting that has no value, and reads
one line for it.  So the attended chain and the unattended one settle the same values, and only
their record of who gave them differs (`resolve_attended_blank`).
-/

namespace Groundwork

open Text

/-! ### One setting -/

namespace Setting

variable (flags : Flags) (facts : Facts) (s : Setting)

/-- The setting after a blank answer. -/
def answered : Setting :=
  if s.isValid then s
  else { s with choice := .given ((s.computedDefault? facts).getD s.default) true }

/-- The setting without the record of who gave its value. -/
def unattributed : Setting :=
  match s.choice with
  | .pending => s
  | .given v _ => { s with choice := .given v false }

theorem value_unattributed : s.unattributed.value = s.value := by
  obtain ⟨name, description, scope, default, dynamic, choice⟩ := s
  cases choice <;> rfl

theorem isValid_answered : (s.answered facts).isValid = true := by
  unfold answered
  split
  · assumption
  · rfl

theorem isByUser_answered : (s.answered facts).isByUser = (s.isByUser || !s.isValid) := by
  unfold answered
  by_cases hs : s.isValid = true
  · rw [if_pos hs, hs, Bool.not_true, Bool.or_false]
  · rw [if_neg hs, Bool.eq_false_iff.mpr hs, Bool.not_false, Bool.or_true]
    rfl

theorem isByUser_of_pending (hs : ¬s.isValid = true) : s.isByUser = false := by
  unfold isByUser
  unfold isValid at hs
  split at hs
  · rfl
  · exact absurd rfl hs

/-- The defaults do not come from the user. -/
theorem isByUser_settled : (s.settled flags facts).isByUser = (s.flagged flags).isByUser := by
  unfold settled flagged
  by_cases hs : s.isValid = true
  · rw [if_pos hs, if_pos hs]
  · rw [if_neg hs, if_neg hs]
    cases s.flagValue? flags with
    | some v => rfl
    | none => exact (s.isByUser_of_pending hs).symm

/-- A blank answer gives what the defaults give. -/
theorem unattributed_answered_flagged :
    ((s.flagged flags).answered facts).unattributed = (s.settled flags facts).unattributed := by
  unfold settled flagged
  by_cases hs : s.isValid = true
  · rw [if_pos hs, if_pos hs, answered, if_pos hs]
  · rw [if_neg hs, if_neg hs]
    cases s.flagValue? flags with
    | some v => rfl
    | none =>
      show (s.answered facts).unattributed = _
      rw [answered, if_neg hs]
      rfl

end Setting

/-! ### One question -/

namespace Source

variable {facts : Facts} {s : Setting} {console : Console} {n : Nat} {rest : List UInt8}

/-- What is shown before the answer about a setting. -/
def asking (facts : Facts) (s : Setting) : List UInt8 :=
  utf8Bytes (prompt s (suggestion (some facts) s))

theorem fill_dialogue_blank (hs : ¬s.isValid = true) (hroom : console.room = none)
    (hblank : BlankLines (n + 1) console.unread rest) :
    ∃ console', (dialogue console (some facts)).fill s =
        (.ok (s.answered facts), .dialogue console' (some facts)) ∧
      console'.room = none ∧ console'.written = console.written ++ asking facts s ∧
      BlankLines n console'.unread rest := by
  obtain ⟨console', hask, hroom', hwritten, hrest⟩ :=
    (question (some facts) s).ask_blank hroom hblank
  refine ⟨console', ?_, hroom', hwritten, hrest⟩
  have hanswer : (question (some facts) s).onBlank = suggestion (some facts) s := rfl
  have hgive : give s (suggestion (some facts) s) true =
      .ok { s with choice := .given (suggestion (some facts) s) true } :=
    give_eq_ok.mpr ⟨kind_suggestion _ s, rfl⟩
  rw [fill, if_neg hs]
  simp only [fillFromDialogue, hask, hanswer, hgive]
  rw [Setting.answered, if_neg hs, suggestion_eq, Option.bind_some]

end Source

/-! ### The whole list -/

namespace Settings

variable {ss : Settings} {flags : Flags} {console : Console} {rest : List UInt8} (facts : Facts)

/-- The settings without a value. -/
def pending (ss : Settings) : List Setting :=
  ss.entries.filter fun s => !s.isValid

theorem populateEntries_dialogue_blank {entries : List Setting} (hroom : console.room = none)
    (hblank : BlankLines (pending ⟨entries⟩).length console.unread rest) :
    ∃ console', populateEntries (.dialogue console (some facts)) entries =
        (entries.map (Setting.answered facts), .dialogue console' (some facts), none) ∧
      console'.written = console.written ++ (pending ⟨entries⟩).flatMap (Source.asking facts) ∧
      console'.unread = rest := by
  -- each question leaves a console from which its line is gone
  induction entries generalizing console with
  | nil =>
    refine ⟨console, rfl, (List.append_nil _).symm, ?_⟩
    have hnone : BlankLines 0 console.unread rest := hblank
    generalize console.unread = unread at hnone
    cases hnone
    rfl
  | cons s others ih =>
    rw [populateEntries]
    by_cases hs : s.isValid = true
    · -- nothing is asked about a setting that has a value
      have hpending : pending ⟨s :: others⟩ = pending ⟨others⟩ := by
        simp [pending, hs]
      rw [hpending] at hblank ⊢
      obtain ⟨console', hothers, hwritten, hunread⟩ := ih hroom hblank
      refine ⟨console', ?_, hwritten, hunread⟩
      rw [Source.fill_of_isValid _ hs]
      simp only [hothers, List.map_cons, Setting.answered, hs, ↓reduceIte]
    · have hpending : pending ⟨s :: others⟩ = s :: pending ⟨others⟩ := by
        simp [pending, hs]
      rw [hpending] at hblank ⊢
      obtain ⟨asked, hfill, hroom', hshown, hleft⟩ := Source.fill_dialogue_blank hs hroom hblank
      obtain ⟨console', hothers, hwritten, hunread⟩ := ih hroom' hleft
      refine ⟨console', ?_, ?_, hunread⟩
      · rw [hfill]
        simp only [hothers, List.map_cons]
      · rw [hwritten, hshown, List.flatMap_cons, List.append_assoc]

/-- A dialogue with blank answers asks once about each setting without a value, in order, and reads
one line for it. -/
theorem populate_dialogue_blank (hroom : console.room = none)
    (hblank : BlankLines ss.pending.length console.unread rest) :
    ∃ console', ss.populate (.dialogue console (some facts)) =
        ⟨⟨ss.entries.map (Setting.answered facts)⟩, .dialogue console' (some facts), none⟩ ∧
      console'.written = console.written ++ ss.pending.flatMap (Source.asking facts) ∧
      console'.unread = rest := by
  obtain ⟨console', hrun, hwritten, hunread⟩ :=
    populateEntries_dialogue_blank facts hroom hblank
  refine ⟨console', ?_, hwritten, hunread⟩
  rw [populate, hrun]

/-! ### The chain -/

/-- The sources that are asked when the user is there to answer. -/
def attended (flags : Flags) (facts : Facts) (console : Console) : List Source :=
  [.flags flags, .dialogue console (some facts), .completeness]

/-- The flag stage succeeds just when every text that it needs can be read. -/
theorem error_populate_flags_eq_none_iff :
    (ss.populate (.flags flags)).error = none ↔ ∀ s ∈ ss.entries, s.refused? flags = none := by
  constructor
  · intro h
    by_contra hrefused
    obtain ⟨pre, s, post, raw, hentries, hpre, hs⟩ := exists_first_refused hrefused
    rw [populate_flags_refused hentries hpre hs] at h
    cases h
  · intro h
    rw [populate_flags h]

/-- The attended chain with blank answers. -/
theorem resolve_attended_of_readable (h : ∀ s ∈ ss.entries, s.refused? flags = none)
    (hroom : console.room = none)
    (hblank : BlankLines (pending ⟨ss.entries.map (Setting.flagged flags)⟩).length console.unread
      rest) :
    ∃ console', ss.resolve (attended flags facts console) =
        ⟨⟨(ss.entries.map (Setting.flagged flags)).map (Setting.answered facts)⟩,
          [.flags flags, .dialogue console' (some facts), .completeness], none⟩ ∧
      console'.unread = rest := by
  obtain ⟨console', hdialogue, -, hunread⟩ :=
    populate_dialogue_blank facts hroom hblank
  -- after the dialogue nothing is missing
  have hcomplete (entries : List Setting) :
      populate ⟨entries.map (Setting.answered facts)⟩ .completeness =
        ⟨⟨entries.map (Setting.answered facts)⟩, .completeness, none⟩ := by
    apply populate_of_isValid
    intro s hs
    obtain ⟨t, -, rfl⟩ := List.mem_map.mp hs
    exact t.isValid_answered facts
  refine ⟨console', ?_, hunread⟩
  rw [attended, resolve_cons_of_none (populate_flags h), resolve_cons_of_none hdialogue,
    resolve_cons_of_none (hcomplete _)]
  rfl

/-- Where the flags can be read, blank answers settle every setting as the unattended chain does.
The chains differ only in who gave the values: the attended one says the user where the flags left
a setting without a value, and of the input it reads one line for each such setting. -/
theorem resolve_attended_blank (hflags : (ss.populate (.flags flags)).error = none)
    (hroom : console.room = none)
    (hblank : BlankLines (ss.populate (.flags flags)).settings.pending.length console.unread
      rest) :
    (ss.resolve (attended flags facts console)).error = none ∧
      (ss.resolve (unattended flags facts)).error = none ∧
      List.Forall₂
        (fun s t : Setting => s.value = t.value ∧ s.isValid = true ∧ t.isValid = true ∧
          s.unattributed = t.unattributed)
        (ss.resolve (attended flags facts console)).settings.entries
        (ss.resolve (unattended flags facts)).settings.entries ∧
      List.Forall₂ (fun f s : Setting => s.isByUser = (f.isByUser || !f.isValid))
        (ss.populate (.flags flags)).settings.entries
        (ss.resolve (attended flags facts console)).settings.entries ∧
      List.Forall₂ (fun f t : Setting => t.isByUser = f.isByUser)
        (ss.populate (.flags flags)).settings.entries
        (ss.resolve (unattended flags facts)).settings.entries ∧
      ∃ console', (ss.resolve (attended flags facts console)).sources =
          [.flags flags, .dialogue console' (some facts), .completeness] ∧
        console'.unread = rest := by
  have hreadable := error_populate_flags_eq_none_iff.mp hflags
  rw [populate_flags hreadable] at hblank ⊢
  obtain ⟨console', hattended, hunread⟩ :=
    resolve_attended_of_readable facts hreadable hroom hblank
  rw [hattended, resolve_unattended_of_readable facts hreadable]
  refine ⟨rfl, rfl, ?_, ?_, ?_, console', rfl, hunread⟩
  · rw [List.map_map, List.forall₂_map_left_iff, List.forall₂_map_right_iff, List.forall₂_same]
    intro s _
    have hsame := s.unattributed_answered_flagged flags facts
    refine ⟨?_, (s.flagged flags).isValid_answered facts, s.isValid_settled flags facts, hsame⟩
    rw [← Setting.value_unattributed (s.settled flags facts), ← hsame]
    exact (Setting.value_unattributed _).symm
  · rw [List.forall₂_map_right_iff, List.forall₂_same]
    intro s _
    exact s.isByUser_answered facts
  · rw [List.forall₂_map_left_iff, List.forall₂_map_right_iff, List.forall₂_same]
    intro s _
    exact s.isByUser_settled flags facts

/-- A domain with a computed default, a number for one unit and a text. -/
def office : Settings :=
  CommandLine.attachDefaults
    ⟨[{ name := CommandLine.systemDomain, default := .string "example.com" },
      { name := "replicas", scope := .unit "gitea", default := .int 1 },
      { name := "verbose", default := .string "no" }]⟩

/-- A command line that gives the number. -/
def threeReplicas : Flags :=
  ⟨[("replicas", "3")]⟩

/-- Two lines of blanks, the second one a no-break space, and a line for whoever asks next. -/
def twoBlanks : Console :=
  { unread := utf8Bytes " \t" ++ 10 :: (utf8Bytes "\u00a0" ++ 10 :: utf8Bytes "later\n") }

theorem resolve_attended_blank_office :
    (office.populate (.flags threeReplicas)).error = none ∧
      (office.resolve (attended threeReplicas reachableNode twoBlanks)).settings.entries.map
        Setting.value = [.string "10.0.0.7.nip.io", .int 3, .string "no"] ∧
      ∃ console', (office.resolve (attended threeReplicas reachableNode twoBlanks)).sources =
          [.flags threeReplicas, .dialogue console' (some reachableNode), .completeness] ∧
        console'.unread = utf8Bytes "later\n" := by
  have hflags : (office.populate (.flags threeReplicas)).error = none := rfl
  have hblank : BlankLines (office.populate (.flags threeReplicas)).settings.pending.length
      twoBlanks.unread (utf8Bytes "later\n") := by
    show BlankLines 2 _ _
    refine .line ?_ (.line ?_ (.none _))
    · simp [BlankText, isBlank]
    · simp [BlankText, isBlank]
  -- the values are read off the unattended chain, which needs no input
  obtain ⟨-, -, hvalues, -, -, hread⟩ :=
    resolve_attended_blank reachableNode hflags rfl hblank
  refine ⟨hflags, ?_, hread⟩
  have hsame : List.Forall₂ (· = ·)
      ((office.resolve (attended threeReplicas reachableNode twoBlanks)).settings.entries.map
        Setting.value)
      ((office.resolve (unattended threeReplicas reachableNode)).settings.entries.map
        Setting.value) := by
    rw [List.forall₂_map_left_iff, List.forall₂_map_right_iff]
    exact hvalues.imp fun _ _ h => h.1
  rw [List.forall₂_eq_eq_eq] at hsame
  rw [hsame]
  rfl

end Settings

end Groundwork
