import Groundwork.Console
import Groundwork.Proofs.Text.Blank
import Groundwork.Proofs.Text.Lines

/-!
# Questions and the lines that answer them

A question is put once for each line that is typed, until a line ends it.  `Question.verdict` says
what a line comes to: bytes that are no text fail, a line of blanks takes the suggestion, another
text is understood or the question is put again.  The first line that ends the question gives its
result, and what was typed after it is left (`ask_decided`); if no line does, the end of the input
gives the result (`ask_undecided`).

`BlankLines n bytes rest` says that the bytes begin with `n` lines of blanks, after which `rest`
comes.  A question takes one of them as the answer that takes the suggestion (`ask_blank`).
-/

namespace Groundwork

open Text

/-! ### Blank texts -/

/-- A text of blanks in which no line ends. -/
def BlankText (s : String) : Prop :=
  ∀ x ∈ s.toList, isBlank x = true ∧ x ≠ '\n'

namespace BlankText

variable {s : String}

theorem newline_not_mem (h : BlankText s) : '\n' ∉ s.toList :=
  fun hmem => (h '\n' hmem).2 rfl

theorem trim_eq (h : BlankText s) : trim s = "" :=
  trim_of_blank fun x hx => (h x hx).1

/-- The newline at the end of a line is a blank as well. -/
theorem trim_append_newline (h : BlankText s) : trim (s ++ "\n") = "" := by
  apply trim_of_blank
  intro x hx
  rw [String.toList_append] at hx
  rcases List.mem_append.mp hx with hx | hx
  · exact (h x hx).1
  · obtain rfl : x = '\n' := List.mem_singleton.mp hx
    decide

end BlankText

/-! ### The lines that are typed -/

namespace Console

variable {c : Console} {line : List UInt8} {before left : List (List UInt8)}

/-- The lines that have not been read, as bytes. -/
def lines (c : Console) : List (List UInt8) :=
  Text.lines 10 c.unread

/-- The console after some bytes were shown and all lines but the last ones were read. -/
def after (c : Console) (shown : List UInt8) (left : List (List UInt8)) : Console :=
  { c with unread := left.flatten, written := c.written ++ shown }

theorem room_after (c : Console) (shown : List UInt8) (left : List (List UInt8)) :
    (c.after shown left).room = c.room :=
  rfl

theorem after_after (c : Console) (shown more : List UInt8) (left others : List (List UInt8)) :
    (c.after shown left).after more others = c.after (shown ++ more) others := by
  rw [after, after, after, List.append_assoc]

theorem after_lines (c : Console) : c.after [] c.lines = c := by
  rw [after, lines, flatten_lines, List.append_nil]

theorem lines_cutLine {bytes : List UInt8} (h : bytes ≠ []) :
    Text.lines 10 bytes = (cutLine bytes).1 :: Text.lines 10 (cutLine bytes).2 := by
  induction bytes with
  | nil => exact absurd rfl h
  | cons b rest ih =>
    rw [Text.lines, cutLine]
    split
    · rfl
    · rcases rest with _ | ⟨b', more⟩
      · rfl
      · rw [ih (List.cons_ne_nil b' more)]

/-- If there is a line, it is cut off and the others are left. -/
theorem cutLine_of_lines_cons (h : c.lines = line :: left) :
    cutLine c.unread = (line, left.flatten) ∧ line ≠ [] := by
  obtain ⟨b, rest, hunread⟩ : ∃ b rest, c.unread = b :: rest := by
    apply List.exists_cons_of_ne_nil
    intro hnil
    rw [lines, hnil] at h
    cases h
  rw [lines, lines_cutLine (hunread ▸ List.cons_ne_nil b rest)] at h
  obtain ⟨rfl, rfl⟩ := List.cons.inj h
  refine ⟨?_, ?_⟩
  · rw [flatten_lines]
  · -- the line has at least the byte that was typed first
    rw [hunread, cutLine]
    split <;> exact List.cons_ne_nil _ _

/-- The lines behind those that were read are left. -/
theorem lines_after (h : c.lines = before ++ left) (shown : List UInt8) :
    (c.after shown left).lines = left :=
  lines_flatten h

theorem lines_after_cons (h : c.lines = line :: left) (shown : List UInt8) :
    (c.after shown left).lines = left :=
  lines_flatten_tail h

theorem readLine_of_lines_cons (h : c.lines = line :: left) :
    c.readLine =
      ((decode? line).elim (.error .notText) fun s => .ok (some s), c.after [] left) := by
  obtain ⟨hcut, hne⟩ := cutLine_of_lines_cons h
  obtain ⟨b, bytes, rfl⟩ := List.exists_cons_of_ne_nil hne
  simp only [readLine, hcut, after, List.append_nil]
  cases decode? (b :: bytes) with
  | none => rfl
  | some s => rfl

theorem unread_of_lines_nil (h : c.lines = []) : c.unread = [] := by
  rw [← flatten_lines 10 c.unread]
  exact congrArg List.flatten h

theorem readLine_of_lines_nil (h : c.lines = []) : c.readLine = (.ok none, c.after [] []) := by
  simp only [readLine, unread_of_lines_nil h, cutLine, after, List.flatten_nil, List.append_nil]

theorem write_of_room (h : c.room = none) (s : String) :
    c.write s = (.ok (), { c with written := c.written ++ utf8Bytes s }) := by
  rw [write, h]

end Console

/-! ### Questions -/

namespace Question

variable {α : Type} (q : Question α) {c : Console} {line : List UInt8}
  {before left : List (List UInt8)} {result : Except IoFault α}

/-- One round of a question. -/
theorem ask_eq (c : Console) :
    q.ask c =
      match c.write q.prompt with
      | (.error e, c₁) => (.error e, c₁)
      | (.ok _, c₁) =>
        match c₁.readLine with
        | (.error e, c₂) => (.error e, c₂)
        | (.ok none, c₂) => (q.atEnd, c₂)
        | (.ok (some line), c₂) =>
          if (trim line).isEmpty then (.ok q.onBlank, c₂)
          else match q.understand (trim line) with
            | some a => (.ok a, c₂)
            | none =>
              match c₂.write (q.complaint ++ "\n") with
              | (.error e, c₃) => (.error e, c₃)
              | (.ok _, c₃) => q.ask c₃ := by
  rw [ask]
  -- each step of the round has the result that both sides look at
  split
  · rename_i hwrite
    rw [hwrite]
  · rename_i c₁ hwrite
    rw [hwrite]
    dsimp only
    split
    · rename_i hread
      rw [hread]
    · rename_i hread
      rw [hread]
    · rename_i line c₂ hread
      rw [hread]
      dsimp only
      generalize c₂.write (q.complaint ++ "\n") = complained
      rcases complained with ⟨_ | _, c₃⟩ <;> rfl

/-- What a line comes to: nothing if it is a text that is neither blank nor understood. -/
def verdict (line : List UInt8) : Option (Except IoFault α) :=
  match decode? line with
  | none => some (.error .notText)
  | some s => if (trim s).isEmpty then some (.ok q.onBlank) else (q.understand (trim s)).map .ok

/-- What is shown if so many lines are not understood: the question and the complaint for each of
them, and the question once more. -/
def shown (n : Nat) : List UInt8 :=
  (List.replicate n (utf8Bytes q.prompt ++ utf8Bytes (q.complaint ++ "\n"))).flatten ++
    utf8Bytes q.prompt

theorem shown_zero : q.shown 0 = utf8Bytes q.prompt :=
  rfl

theorem shown_succ (n : Nat) :
    q.shown (n + 1) = utf8Bytes q.prompt ++ utf8Bytes (q.complaint ++ "\n") ++ q.shown n := by
  rw [shown, List.replicate_succ, List.flatten_cons, List.append_assoc]
  rfl

variable {q}

/-- An answer is what a line of blanks or the end of the input means, or one that was understood. -/
theorem of_fst_ask_eq_ok {a : α} (h : (q.ask c).1 = .ok a) :
    q.atEnd = .ok a ∨ a = q.onBlank ∨ ∃ answer, q.understand answer = some a := by
  fun_induction q.ask c with
  | case1 | case2 | case6 => cases h
  | case3 => exact Or.inl h
  | case4 =>
    cases h
    exact Or.inr (Or.inl rfl)
  | case5 c _ _ _ _ _ _ answer _ _ hanswer =>
    cases h
    exact Or.inr (Or.inr ⟨answer, hanswer⟩)
  | case7 _ _ _ _ _ _ _ _ _ _ _ _ _ ih => exact ih h

/-- After a line that is not understood the question is put again. -/
theorem ask_of_verdict_none (hroom : c.room = none) (hlines : c.lines = line :: left)
    (hline : q.verdict line = none) :
    q.ask c =
      q.ask (c.after (utf8Bytes q.prompt ++ utf8Bytes (q.complaint ++ "\n")) left) := by
  have hread := Console.readLine_of_lines_cons
    (c := { c with written := c.written ++ utf8Bytes q.prompt }) hlines
  rw [verdict] at hline
  rw [ask_eq, Console.write_of_room hroom]
  rcases hdecode : decode? line with _ | s
  · rw [hdecode] at hline
    cases hline
  rw [hdecode] at hline hread
  dsimp only at hline
  rw [Option.elim_some] at hread
  split at hline
  · cases hline
  · rename_i hblank
    have hunderstand := Option.map_eq_none_iff.mp hline
    have hcomplain := Console.write_of_room
      (c := Console.after { c with written := c.written ++ utf8Bytes q.prompt } [] left) hroom
      (q.complaint ++ "\n")
    simp only [hread, if_neg hblank, hunderstand, hcomplain]
    simp only [Console.after, List.append_nil, List.append_assoc]

theorem ask_of_verdict_some (hroom : c.room = none) (hlines : c.lines = line :: left)
    (hline : q.verdict line = some result) :
    q.ask c = (result, c.after (utf8Bytes q.prompt) left) := by
  have hread := Console.readLine_of_lines_cons
    (c := { c with written := c.written ++ utf8Bytes q.prompt }) hlines
  have hafter : Console.after { c with written := c.written ++ utf8Bytes q.prompt } [] left =
      c.after (utf8Bytes q.prompt) left := by
    rw [Console.after, Console.after, List.append_nil]
  rw [verdict] at hline
  rw [ask_eq, Console.write_of_room hroom]
  rcases hdecode : decode? line with _ | s
  · rw [hdecode] at hline hread
    obtain rfl := Option.some.inj hline
    simp only [hread, Option.elim_none, hafter]
  rw [hdecode] at hline hread
  dsimp only at hline
  simp only [hread, Option.elim_some, hafter]
  split at hline
  · rename_i hblank
    obtain rfl := Option.some.inj hline
    rw [if_pos hblank]
  · rename_i hblank
    obtain ⟨a, ha, rfl⟩ := Option.map_eq_some_iff.mp hline
    simp only [if_neg hblank, ha]

/-- The first line that ends a question gives its result, and those after it are left. -/
theorem ask_decided (hroom : c.room = none) (hlines : c.lines = before ++ line :: left)
    (hbefore : ∀ l ∈ before, q.verdict l = none) (hline : q.verdict line = some result) :
    q.ask c = (result, c.after (q.shown before.length) left) := by
  induction before generalizing c with
  | nil => exact ask_of_verdict_some hroom hlines hline
  | cons first before ih =>
    obtain ⟨hfirst, hbefore⟩ := List.forall_mem_cons.mp hbefore
    have hrest := Console.lines_after_cons hlines
      (utf8Bytes q.prompt ++ utf8Bytes (q.complaint ++ "\n"))
    rw [ask_of_verdict_none hroom hlines hfirst, ih (c := c.after _ _) hroom hrest hbefore,
      Console.after_after, List.length_cons, shown_succ]

/-- If no line ends a question, the end of the input does. -/
theorem ask_undecided (hroom : c.room = none) (h : ∀ l ∈ c.lines, q.verdict l = none) :
    q.ask c = (q.atEnd, c.after (q.shown c.lines.length) []) := by
  generalize hlines : c.lines = typed at h ⊢
  induction typed generalizing c with
  | nil =>
    have hread := Console.readLine_of_lines_nil
      (c := { c with written := c.written ++ utf8Bytes q.prompt }) hlines
    rw [ask_eq, Console.write_of_room hroom]
    simp only [hread]
    simp only [Console.after, List.append_nil, List.length_nil, shown_zero]
  | cons first rest ih =>
    obtain ⟨hfirst, hmore⟩ := List.forall_mem_cons.mp h
    have hrest := Console.lines_after_cons hlines
      (utf8Bytes q.prompt ++ utf8Bytes (q.complaint ++ "\n"))
    rw [ask_of_verdict_none hroom hlines hfirst, ih (c := c.after _ _) hroom hrest hmore,
      Console.after_after, List.length_cons, shown_succ]

/-- The result is that of the first line that ends the question, or that of the end. -/
theorem fst_ask_eq_iff (hroom : c.room = none) :
    (q.ask c).1 = result ↔
      (∃ before line left, c.lines = before ++ line :: left ∧
        (∀ l ∈ before, q.verdict l = none) ∧ q.verdict line = some result) ∨
      (∀ l ∈ c.lines, q.verdict l = none) ∧ q.atEnd = result := by
  constructor
  · rintro rfl
    rcases hfirst : c.lines.findSome? q.verdict with _ | decided
    · have hnone := List.findSome?_eq_none_iff.mp hfirst
      rw [ask_undecided hroom hnone]
      exact Or.inr ⟨hnone, rfl⟩
    · obtain ⟨before, line, left, hlines, hline, hbefore⟩ := List.findSome?_eq_some_iff.mp hfirst
      rw [ask_decided hroom hlines hbefore hline]
      exact Or.inl ⟨before, line, left, hlines, hbefore, hline⟩
  · rintro (⟨before, line, left, hlines, hbefore, hline⟩ | ⟨hnone, hend⟩)
    · rw [ask_decided hroom hlines hbefore hline]
    · rw [ask_undecided hroom hnone]
      exact hend

end Question

/-! ### Lines of blanks -/

/-- The bytes begin with so many lines of blanks, after which the rest comes.  At the end of the
input the newline may be missing. -/
inductive BlankLines : Nat → List UInt8 → List UInt8 → Prop where
  | none (rest : List UInt8) : BlankLines 0 rest rest
  | line {n : Nat} {s : String} {bytes rest : List UInt8} :
    BlankText s → BlankLines n bytes rest → BlankLines (n + 1) (utf8Bytes s ++ 10 :: bytes) rest
  | last {s : String} : BlankText s → s ≠ "" → BlankLines 1 (utf8Bytes s) []

/-- The first of several lines of blanks is read as a blank text. -/
theorem BlankLines.lines {n : Nat} {bytes rest : List UInt8} (h : BlankLines (n + 1) bytes rest) :
    ∃ s others, Text.lines 10 bytes = utf8Bytes s :: others ∧ trim s = "" ∧
      BlankLines n others.flatten rest := by
  cases h with
  | @line _ s bytes _ hblank hmore =>
    have hbytes : utf8Bytes (s ++ "\n") = utf8Bytes s ++ [10] := by
      rw [utf8Bytes_append, utf8Bytes_eq "\n"]
      rfl
    refine ⟨s ++ "\n", Text.lines 10 bytes, ?_, hblank.trim_append_newline, ?_⟩
    · rw [lines_append_mark (newline_not_mem_utf8Bytes hblank.newline_not_mem), hbytes]
    · rw [flatten_lines]
      exact hmore
  | @last s hblank hne =>
    refine ⟨s, [], ?_, hblank.trim_eq, .none []⟩
    apply lines_of_not_mem (newline_not_mem_utf8Bytes hblank.newline_not_mem)
    rwa [ne_eq, utf8Bytes_eq_nil]

namespace Question

variable {α : Type} (q : Question α) {c : Console}

theorem verdict_of_blank {s : String} (h : trim s = "") :
    q.verdict (utf8Bytes s) = some (.ok q.onBlank) := by
  rw [verdict, decode?_utf8Bytes]
  simp only [h]
  rfl

/-- A question is put once, and a line of blanks takes its suggestion. -/
theorem ask_blank {n : Nat} {rest : List UInt8} (hroom : c.room = none)
    (h : BlankLines (n + 1) c.unread rest) :
    ∃ c', q.ask c = (.ok q.onBlank, c') ∧ c'.room = none ∧
      c'.written = c.written ++ utf8Bytes q.prompt ∧ BlankLines n c'.unread rest := by
  obtain ⟨s, others, hlines, hblank, hmore⟩ := h.lines
  exact ⟨_, ask_of_verdict_some hroom hlines (q.verdict_of_blank hblank), hroom, rfl, hmore⟩

end Question

end Groundwork
