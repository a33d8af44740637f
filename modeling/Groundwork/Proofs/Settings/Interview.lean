import Groundwork.Proofs.Settings.Dialogue

/-!
# What a dialogue comes to

`Interview` says, setting by setting and line by line, what becomes of a list of settings and of the
lines of a text that is typed.  About each setting without a value a question is put until a line is
`heard`: a blank one, which takes what is suggested, or one that reads as the kind.  If the lines run
out, the settings from this one on stay as they are.  There is such an account for every list and
every text (`exists_interview`), and it is what the dialogue does (`populate_interview`).
-/

namespace Groundwork

open Text

/-! ### One setting -/

/-- What a line says about a setting: a blank one takes the computed default, if the facts are known
and it can be used, else the fixed one; any other is read as the kind. -/
def Setting.heard? (facts : Option Facts) (s : Setting) (line : String) : Option Value :=
  if trim line = "" then some ((facts.bind s.computedDefault?).getD s.default)
  else Value.parse s.kind line

namespace Source

variable {facts : Option Facts} {s : Setting} {console : Console} {rejected left : List String}
  {line : String} {v : Value}

theorem verdict_question (facts : Option Facts) (s : Setting) (line : String) :
    (question facts s).verdict (utf8Bytes line) = (s.heard? facts line).map .ok := by
  rw [Question.verdict, decode?_utf8Bytes, Setting.heard?, ← suggestion_eq, ← Value.parse_trim]
  simp only [String.isEmpty_iff]
  split <;> rfl

theorem verdict_question_of_rejected (h : ∀ l ∈ rejected, s.heard? facts l = none) :
    ∀ l ∈ rejected.map utf8Bytes, (question facts s).verdict l = none := by
  rw [List.forall_mem_map]
  intro l hl
  rw [verdict_question, h l hl]
  rfl

/-- The first line that is heard gives the value, and the lines after it are left. -/
theorem fill_of_heard (hs : s.isValid = false) (hroom : console.room = none)
    (hlines : console.lines = rejected.map utf8Bytes ++ utf8Bytes line :: left.map utf8Bytes)
    (hrejected : ∀ l ∈ rejected, s.heard? facts l = none) (hheard : s.heard? facts line = some v) :
    (dialogue console facts).fill s =
      (.ok { s with choice := .given v true },
        .dialogue (console.after ((question facts s).shown rejected.length) (left.map utf8Bytes))
          facts) := by
  have hverdict : (question facts s).verdict (utf8Bytes line) = some (.ok v) := by
    rw [verdict_question, hheard]
    rfl
  have hask := Question.ask_decided hroom hlines (verdict_question_of_rejected hrejected) hverdict
  have hgive : give s v true = _ := give_eq_ok.mpr ⟨kind_of_ask (congrArg Prod.fst hask), rfl⟩
  rw [List.length_map] at hask
  unfold fill
  rw [if_neg (Bool.eq_false_iff.mp hs)]
  simp only [fillFromDialogue, hask, hgive]

/-- If no line is heard, all of them are read. -/
theorem fill_of_not_heard (hs : s.isValid = false) (hroom : console.room = none)
    (hlines : console.lines = rejected.map utf8Bytes)
    (hrejected : ∀ l ∈ rejected, s.heard? facts l = none) :
    (dialogue console facts).fill s =
      (.error (.input s.name .endOfInput),
        .dialogue (console.after ((question facts s).shown rejected.length) []) facts) := by
  have hask := Question.ask_undecided hroom
    (hlines ▸ verdict_question_of_rejected hrejected)
  rw [hlines, List.length_map] at hask
  have hend : (question facts s).atEnd = .error .endOfInput := rfl
  unfold fill
  rw [if_neg (Bool.eq_false_iff.mp hs)]
  simp only [fillFromDialogue, hask, hend]

end Source

/-! ### The whole list -/

/-- What an interview leaves: the settings, the bytes that were shown, the lines that were not read,
and the error if the lines ran out. -/
structure Minutes where
  entries : List Setting
  shown : List UInt8
  left : List String
  error : Option SetupError

/-- Going through the settings with the lines that are typed. -/
inductive Interview (facts : Option Facts) : List Setting → List String → Minutes → Prop where
  /-- Nothing is asked any more, and the lines that are there are left. -/
  | done (lines : List String) : Interview facts [] lines ⟨[], [], lines, none⟩
  /-- A setting with a value is passed over. -/
  | passed {s : Setting} {rest : List Setting} {lines : List String} {m : Minutes} :
    s.isValid = true → Interview facts rest lines m →
      Interview facts (s :: rest) lines { m with entries := s :: m.entries }
  /-- The first line that is heard gives the user's value. -/
  | answered {s : Setting} {rest : List Setting} (rejected : List String) {line : String}
    {left : List String} {v : Value} {m : Minutes} :
    s.isValid = false → (∀ l ∈ rejected, s.heard? facts l = none) →
      s.heard? facts line = some v → Interview facts rest left m →
        Interview facts (s :: rest) (rejected ++ line :: left)
          { m with
            entries := { s with choice := .given v true } :: m.entries
            shown := (Source.question facts s).shown rejected.length ++ m.shown }
  /-- No line is heard, so the end of the input breaks the interview off. -/
  | ranOut {s : Setting} {rest : List Setting} {lines : List String} :
    s.isValid = false → (∀ l ∈ lines, s.heard? facts l = none) →
      Interview facts (s :: rest) lines
        ⟨s :: rest, (Source.question facts s).shown lines.length, [],
          some (.input s.name .endOfInput)⟩

namespace Settings

variable {ss : Settings} {entries : List Setting} {facts : Option Facts} {console : Console}
  {lines : List String} {text : String} {m : Minutes}

theorem exists_interview (facts : Option Facts) (entries : List Setting) (lines : List String) :
    ∃ m, Interview facts entries lines m := by
  induction entries generalizing lines with
  | nil => exact ⟨_, .done lines⟩
  | cons s rest ih =>
    rcases hs : s.isValid with _ | _
    · -- either some line is heard first, or none is and the rest is not asked about
      rcases hheard : lines.findSome? (s.heard? facts) with _ | v
      · exact ⟨_, .ranOut hs (List.findSome?_eq_none_iff.mp hheard)⟩
      · obtain ⟨rejected, line, left, rfl, hline, hrejected⟩ :=
          List.findSome?_eq_some_iff.mp hheard
        obtain ⟨m, hm⟩ := ih left
        exact ⟨_, .answered rejected hs hrejected hline hm⟩
    · obtain ⟨m, hm⟩ := ih lines
      exact ⟨_, .passed hs hm⟩

/-- A dialogue with these lines does what the interview says. -/
theorem populate_of_interview (h : Interview facts entries lines m) (hroom : console.room = none)
    (hlines : console.lines = lines.map utf8Bytes) :
    populate ⟨entries⟩ (.dialogue console facts) =
      ⟨⟨m.entries⟩, .dialogue (console.after m.shown (m.left.map utf8Bytes)) facts, m.error⟩ := by
  induction h generalizing console with
  | done lines =>
    rw [← hlines, Console.after_lines]
    rfl
  | passed hs _ ih => rw [populate_cons_of_ok (Source.fill_of_isValid _ hs), ih hroom hlines]
  | answered rejected hs hrejected hheard _ ih =>
    rw [List.map_append, List.map_cons] at hlines
    rw [populate_cons_of_ok (Source.fill_of_heard hs hroom hlines hrejected hheard)]
    -- the settings behind this one are asked about with the lines behind its answer
    rw [List.append_cons] at hlines
    rw [ih ((Console.room_after ..).trans hroom) (Console.lines_after hlines _),
      Console.after_after]
  | ranOut hs hrejected =>
    rw [populate_cons_of_error (Source.fill_of_not_heard hs hroom hlines hrejected)]
    rfl

/-- Whatever the settings are, whatever text is typed and whatever the facts suggest, there is an
account of the interview, and the dialogue comes to the end that it says.  Each setting without a
value takes the first line left that is heard, as the user's choice.  The question is shown once for
each line that is read for it, and the complaint once for each that is not heard; the lines behind
the last answer are left.  If the lines run out, the setting that is asked about and those after it
stay as they are, and the error names it. -/
theorem populate_interview (hroom : console.room = none)
    (htext : console.unread = utf8Bytes text) :
    (∃ m, Interview facts ss.entries (textLines text) m) ∧
      ∀ m, Interview facts ss.entries (textLines text) m →
        ss.populate (.dialogue console facts) =
          ⟨⟨m.entries⟩, .dialogue (console.after m.shown (m.left.map utf8Bytes)) facts,
            m.error⟩ := by
  have hlines : console.lines = (textLines text).map utf8Bytes := by
    rw [Console.lines, htext, lines_utf8Bytes]
  exact ⟨exists_interview facts ss.entries _, fun _ h => populate_of_interview h hroom hlines⟩

/-- A blank line, a word and a number. -/
def threeLines : Console :=
  { unread := utf8Bytes " \nmany\n3\n" }

/-- The domain is the one that is suggested, the number is asked for again after a word, and for the
last setting no line is left. -/
theorem populate_interview_office :
    threeLines.room = none ∧ threeLines.unread = utf8Bytes " \nmany\n3\n" ∧
      (office.populate (.dialogue threeLines (some reachableNode))).error =
        some (.input "verbose" .endOfInput) ∧
      (office.populate (.dialogue threeLines (some reachableNode))).settings.entries.map
          Setting.choice =
        [.given (.string "10.0.0.7.nip.io") true, .given (.int 3) true, .pending] := by
  have hlines : textLines " \nmany\n3\n" = [] ++ " \n" :: (["many\n"] ++ "3\n" :: []) := by
    decide
  obtain ⟨-, hsays⟩ := @populate_interview office (some reachableNode) threeLines _ rfl rfl
  rw [hlines] at hsays
  have hinterview := hsays _ <|
    .answered [] rfl (List.forall_mem_nil _) rfl <|
    .answered ["many\n"] rfl (List.forall_mem_singleton.mpr rfl) rfl <|
    .ranOut rfl (List.forall_mem_nil _)
  rw [hinterview]
  exact ⟨rfl, rfl, rfl, rfl⟩

end Settings

end Groundwork
