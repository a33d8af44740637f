import Groundwork.CommandLine.Commands
import Groundwork.Proofs.Console
import Groundwork.Proofs.Value

/-!
# Nothing without a yes

A line on a console says yes or no if it is a text that is one of a few words, it says nothing if it
is blank, and any other text is `Undecided`.  A confirmation goes on after undecided lines, and the
first other line decides: only a yes confirms, and a no, a blank line, bytes that are no text and the
end of the input do not (`confirm_exact`).  Without a confirmation the command that removes a
platform does nothing but ask for it (`uninstall_unconfirmed`).
-/

namespace Groundwork

open Text

/-! ### What a line says -/

section Saying

variable {line : List UInt8} {words : List String} {question : String} {s : String}

/-- The line is a text that is one of the words, in letters of either case and between blanks. -/
def Says (words : List String) (line : List UInt8) : Prop :=
  ∃ s, decode? line = some s ∧ lowerAscii (trim s) ∈ words

/-- The line says yes. -/
def SaysYes : List UInt8 → Prop :=
  Says ["y", "yes", "true", "1"]

/-- The line says no. -/
def SaysNo : List UInt8 → Prop :=
  Says ["n", "no", "false", "0"]

/-- The line is a blank text. -/
def SaysNothing (line : List UInt8) : Prop :=
  ∃ s, decode? line = some s ∧ trim s = ""

/-- The line is a text that says neither yes nor no, and is not blank. -/
def Undecided (line : List UInt8) : Prop :=
  (∃ s, decode? line = some s) ∧ ¬SaysYes line ∧ ¬SaysNo line ∧ ¬SaysNothing line

theorem says_iff (h : decode? line = some s) : Says words line ↔ lowerAscii (trim s) ∈ words := by
  simp only [Says, h, Option.some.injEq, exists_eq_left']

theorem saysNothing_iff (h : decode? line = some s) : SaysNothing line ↔ trim s = "" := by
  simp only [SaysNothing, h, Option.some.injEq, exists_eq_left']

/-! ### What it comes to -/

theorem verdict_confirmation (h : decode? line = some s) (question : String) :
    (confirmation question).verdict line =
      if trim s = "" then some (.ok false) else (Value.readBool? (trim s)).map .ok := by
  rw [Question.verdict, h]
  simp only [String.isEmpty_iff, confirmation]

theorem verdict_eq_yes_iff :
    (confirmation question).verdict line = some (.ok true) ↔ SaysYes line := by
  rcases hdecode : decode? line with _ | s
  · simp [Question.verdict, SaysYes, Says, hdecode]
  · rw [verdict_confirmation hdecode, SaysYes, says_iff hdecode]
    by_cases hblank : trim s = ""
    · -- the empty text is none of the words
      simp only [hblank, ↓reduceIte]
      decide
    · simp [hblank, Value.readBool?_eq_true_iff, Value.yesWords]

theorem verdict_eq_no_iff :
    (confirmation question).verdict line = some (.ok false) ↔ SaysNothing line ∨ SaysNo line := by
  rcases hdecode : decode? line with _ | s
  · simp [Question.verdict, SaysNothing, SaysNo, Says, hdecode]
  · rw [verdict_confirmation hdecode, saysNothing_iff hdecode, SaysNo, says_iff hdecode]
    by_cases hblank : trim s = ""
    · simp only [hblank, ↓reduceIte, true_or]
    · simp [hblank, Value.readBool?_eq_false_iff, Value.noWords]

theorem verdict_eq_error_iff {fault : IoFault} :
    (confirmation question).verdict line = some (.error fault) ↔
      decode? line = none ∧ fault = .notText := by
  rcases hdecode : decode? line with _ | s
  · simp [Question.verdict, hdecode, eq_comm]
  · rw [verdict_confirmation hdecode]
    split
    · simp
    · simp

/-- Only after undecided lines the question is put again. -/
theorem verdict_eq_none_iff : (confirmation question).verdict line = none ↔ Undecided line := by
  rw [Undecided, ← Option.isSome_iff_exists, ← Option.ne_none_iff_isSome]
  rcases hverdict : (confirmation question).verdict line with _ | fault | _ | _
  · -- every other line has a verdict
    have hother {result : Except IoFault Bool} :
        (confirmation question).verdict line ≠ some result := by
      rw [hverdict]
      exact (Option.some_ne_none result).symm
    refine ⟨fun _ => ⟨?_, ?_, ?_, ?_⟩, fun _ => rfl⟩
    · exact fun hdecode => hother (verdict_eq_error_iff.mpr ⟨hdecode, rfl⟩)
    · exact fun hyes => hother (verdict_eq_yes_iff.mpr hyes)
    · exact fun hno => hother (verdict_eq_no_iff.mpr (Or.inr hno))
    · exact fun hnothing => hother (verdict_eq_no_iff.mpr (Or.inl hnothing))
  · simp [(verdict_eq_error_iff.mp hverdict).1]
  · simp only [reduceCtorEq, false_iff]
    rintro ⟨-, -, hno, hnothing⟩
    exact (verdict_eq_no_iff.mp hverdict).elim hnothing hno
  · simp [verdict_eq_yes_iff.mp hverdict]

end Saying

/-! ### Confirming -/

variable {c : Console}

/-- A line that is reached: those before it are undecided. -/
def Reached (c : Console) (before : List (List UInt8)) (line : List UInt8)
    (left : List (List UInt8)) : Prop :=
  c.lines = before ++ line :: left ∧ ∀ l ∈ before, Undecided l

/-- A confirmation comes from a line that says yes after none but undecided ones.  It is denied by
such a line that is blank or says no, or by the end of the input after none but undecided lines, and
it fails on such a line that is no text.  All lines up to the one that decides are read and no other,
and the question is put once for each of them, and once more if the input ends. -/
theorem confirm_exact (question : String) (hroom : c.room = none) :
    ((confirm question c).1 = .ok true ↔
        ∃ before line left, Reached c before line left ∧ SaysYes line) ∧
      ((confirm question c).1 = .ok false ↔
        (∃ before line left, Reached c before line left ∧ (SaysNothing line ∨ SaysNo line)) ∨
          ∀ l ∈ c.lines, Undecided l) ∧
      ((∃ fault, (confirm question c).1 = .error fault) ↔
        ∃ before line left, Reached c before line left ∧ decode? line = none) ∧
      (∀ before line left, Reached c before line left → ¬Undecided line →
        (confirm question c).2 = c.after ((confirmation question).shown before.length) left) ∧
      ((∀ l ∈ c.lines, Undecided l) →
        (confirm question c).2 = c.after ((confirmation question).shown c.lines.length) []) := by
  have hend : (confirmation question).atEnd = .ok false := rfl
  have hresult {result : Except IoFault Bool} :
      ((confirmation question).ask c).1 = result ↔
        (∃ before line left, c.lines = before ++ line :: left ∧ (∀ l ∈ before, Undecided l) ∧
          (confirmation question).verdict line = some result) ∨
        (∀ l ∈ c.lines, Undecided l) ∧ .ok false = result := by
    simp only [Question.fst_ask_eq_iff hroom, verdict_eq_none_iff, hend]
  refine ⟨?_, ?_, ?_, ?_, ?_⟩
  · rw [confirm, hresult]
    simp only [verdict_eq_yes_iff, Reached, and_assoc, Except.ok.injEq, Bool.false_eq_true,
      and_false, or_false]
  · rw [confirm, hresult]
    simp only [verdict_eq_no_iff, Reached, and_assoc, and_true]
  · simp only [confirm, hresult, verdict_eq_error_iff, Reached, reduceCtorEq, and_false, or_false]
    constructor
    · rintro ⟨_, before, line, left, hlines, hbefore, hline, -⟩
      exact ⟨before, line, left, ⟨hlines, hbefore⟩, hline⟩
    · rintro ⟨before, line, left, ⟨hlines, hbefore⟩, hline⟩
      exact ⟨_, before, line, left, hlines, hbefore, hline, rfl⟩
  · rintro before line left ⟨hlines, hbefore⟩ hline
    obtain ⟨result, hverdict⟩ := Option.ne_none_iff_exists'.mp (mt verdict_eq_none_iff.mp hline)
    rw [confirm, Question.ask_decided hroom hlines
      (fun l hl => verdict_eq_none_iff.mpr (hbefore l hl)) hverdict]
  · intro hnone
    rw [confirm, Question.ask_undecided hroom fun l hl => verdict_eq_none_iff.mpr (hnone l hl)]

/-- What is typed: a word that says nothing here, a yes between blanks, and a line for whoever asks
next, without a newline. -/
def hesitant : Console :=
  { unread := utf8Bytes "perhaps\n\u00a0YES \nlater" }

theorem confirm_exact_hesitant :
    hesitant.room = none ∧
      confirm "Remove it?" hesitant =
        (.ok true, hesitant.after ((confirmation "Remove it?").shown 1) [utf8Bytes "later"]) := by
  have hlines : hesitant.lines = [utf8Bytes "perhaps\n"] ++
      utf8Bytes "\u00a0YES \n" :: [utf8Bytes "later"] := lines_utf8Bytes _
  have hperhaps : Undecided (utf8Bytes "perhaps\n") := by
    have hdecode := decode?_utf8Bytes "perhaps\n"
    rw [Undecided, SaysYes, SaysNo, says_iff hdecode, says_iff hdecode, saysNothing_iff hdecode]
    exact ⟨⟨_, hdecode⟩, by decide, by decide, by decide⟩
  have hyes : SaysYes (utf8Bytes "\u00a0YES \n") := by
    rw [SaysYes, says_iff (decode?_utf8Bytes _)]
    decide
  have hreached : Reached hesitant [utf8Bytes "perhaps\n"] (utf8Bytes "\u00a0YES \n")
      [utf8Bytes "later"] := ⟨hlines, List.forall_mem_singleton.mpr hperhaps⟩
  obtain ⟨htrue, -, -, hafter, -⟩ := confirm_exact (c := hesitant) "Remove it?" rfl
  exact ⟨rfl, Prod.ext (htrue.mpr ⟨_, _, _, hreached, hyes⟩)
    (hafter _ _ _ hreached fun hundecided => hundecided.2.1 hyes)⟩

/-! ### Removing -/

namespace CommandLine

/-- Without a confirmation the command shows the question, and ends. -/
theorem uninstall_unconfirmed {t : Terminal} {i : Installer}
    (h : (confirm (removalQuestion i.components.length) { unread := t.input }).1 ≠ .ok true) :
    ∃ diagnosis, uninstall t i false =
      .ask (.print (decodeLossy
        (confirm (removalQuestion i.components.length) { unread := t.input }).2.written))
        fun _ => .fail diagnosis := by
  rcases hconfirm : confirm (removalQuestion i.components.length) { unread := t.input } with
    ⟨fault | _ | _, console⟩
  · refine ⟨.io fault.message, ?_⟩
    simp only [uninstall, askRemoval, hconfirm]
    rfl
  · refine ⟨.cancelled, ?_⟩
    simp only [uninstall, askRemoval, hconfirm]
    rfl
  · rw [hconfirm] at h
    exact absurd rfl h

end CommandLine

end Groundwork
