import Groundwork.Proofs.Text.Utf8

/-!
# Lines

`lines mark` cuts a list behind each `mark`.  Nothing is lost (`flatten_lines`), and what begins
with a line is cut into that line and the lines of what comes after it (`lines_append_mark`).  The
lines of a text, written in UTF-8, are the lines of its bytes (`lines_utf8Bytes`), so it makes no
difference whether a text is cut before or after it is read.
-/

namespace Groundwork.Text

section Lines

variable {α : Type} [DecidableEq α] {mark : α} {front line : List α}

/-- The lines of a list, each with the mark that ends it; only the last one may lack its mark. -/
def lines (mark : α) : List α → List (List α)
  | [] => []
  | a :: rest =>
    if a = mark then [a] :: lines mark rest
    else match lines mark rest with
      | [] => [[a]]
      | line :: more => (a :: line) :: more

theorem flatten_lines (mark : α) (l : List α) : (lines mark l).flatten = l := by
  induction l with
  | nil => rfl
  | cons a rest ih =>
    rw [lines]
    split
    · rw [List.flatten_cons, ih, List.singleton_append]
    · rcases hrest : lines mark rest with _ | ⟨line, more⟩
      · rw [hrest] at ih
        rw [← ih]
        rfl
      · rw [hrest] at ih
        rw [← ih]
        rfl

theorem lines_append_mark (h : mark ∉ front) (rest : List α) :
    lines mark (front ++ mark :: rest) = (front ++ [mark]) :: lines mark rest := by
  induction front with
  | nil => rw [List.nil_append, lines, if_pos rfl, List.nil_append]
  | cons a front ih =>
    obtain ⟨ha, hfront⟩ := not_or.mp (mt List.mem_cons.mpr h)
    rw [List.cons_append, lines, if_neg (Ne.symm ha), ih hfront]
    rfl

/-- What has no mark goes before the first line. -/
theorem lines_append (h : mark ∉ front) (hne : front ≠ []) (rest : List α) :
    lines mark (front ++ rest) =
      match lines mark rest with
      | [] => [front]
      | line :: more => (front ++ line) :: more := by
  induction front with
  | nil => exact absurd rfl hne
  | cons a front ih =>
    obtain ⟨ha, hfront⟩ := not_or.mp (mt List.mem_cons.mpr h)
    rw [List.cons_append, lines, if_neg (Ne.symm ha)]
    rcases front with _ | ⟨b, more⟩
    · rfl
    · rw [ih hfront (List.cons_ne_nil b more)]
      rcases lines mark rest with _ | ⟨line, others⟩ <;> rfl

/-- Behind its first line a list has the other lines. -/
theorem lines_flatten_tail {left : List (List α)} {l : List α} (h : lines mark l = line :: left) :
    lines mark left.flatten = left := by
  induction l generalizing line with
  | nil => cases h
  | cons a rest ih =>
    rw [lines] at h
    split at h
    · obtain ⟨-, rfl⟩ := List.cons.inj h
      rw [flatten_lines]
    · rcases hrest : lines mark rest with _ | ⟨first, more⟩
      · rw [hrest] at h
        obtain ⟨-, rfl⟩ := List.cons.inj h
        rfl
      · rw [hrest] at h
        obtain ⟨-, rfl⟩ := List.cons.inj h
        exact ih hrest

/-- What is left after some of the lines has the other lines. -/
theorem lines_flatten {before left : List (List α)} {l : List α} (h : lines mark l = before ++ left) :
    lines mark left.flatten = left := by
  induction before generalizing l with
  | nil =>
    rw [List.nil_append] at h
    rw [← h, flatten_lines]
  | cons first before ih => exact ih (lines_flatten_tail h)

theorem lines_of_not_mem (h : mark ∉ line) (hne : line ≠ []) : lines mark line = [line] := by
  have hlines := lines_append h hne []
  rwa [List.append_nil] at hlines

end Lines

/-! ### Lines of a text -/

/-- The lines of a text. -/
def textLines (s : String) : List String :=
  (lines '\n' s.toList).map String.ofList

/-- The bytes of a character other than a newline have no newline among them. -/
theorem newline_not_mem_encode {x : Char} (h : x ≠ '\n') : 10 ∉ String.utf8EncodeChar x :=
  fun hmem => h (eq_newline_of_mem_encode hmem)

theorem encode_ne_nil (x : Char) : String.utf8EncodeChar x ≠ [] := by
  obtain ⟨lead, tail, hencode, -⟩ := decodeFirst_encode [] x
  rw [hencode]
  exact List.cons_ne_nil _ _

theorem lines_flatMap_encode (chars : List Char) :
    lines 10 (chars.flatMap String.utf8EncodeChar) =
      (lines '\n' chars).map fun line => line.flatMap String.utf8EncodeChar := by
  induction chars with
  | nil => rfl
  | cons x rest ih =>
    rw [List.flatMap_cons, lines]
    by_cases hx : x = '\n'
    · have hnewline : String.utf8EncodeChar '\n' = [10] := by decide
      rw [if_pos hx, hx, hnewline, List.singleton_append, lines, if_pos rfl, ih, List.map_cons,
        List.flatMap_singleton, hnewline]
    · rw [if_neg hx, lines_append (newline_not_mem_encode hx) (encode_ne_nil x), ih]
      rcases lines '\n' rest with _ | ⟨line, more⟩
      · simp only [List.map_nil, List.map_cons, List.flatMap_singleton]
      · simp only [List.map_cons, List.flatMap_cons]

theorem utf8Bytes_eq_nil {s : String} : utf8Bytes s = [] ↔ s = "" := by
  rw [utf8Bytes_eq, List.flatMap_eq_nil_iff, ← String.toList_eq_nil_iff,
    List.eq_nil_iff_forall_not_mem]
  exact ⟨fun h x hx => encode_ne_nil x (h x hx), fun h x hx => absurd hx (h x)⟩

/-- The lines of the bytes of a text are the bytes of its lines. -/
theorem lines_utf8Bytes (s : String) : lines 10 (utf8Bytes s) = (textLines s).map utf8Bytes := by
  rw [utf8Bytes_eq, lines_flatMap_encode, textLines, List.map_map]
  apply List.map_congr_left
  intro line _
  rw [Function.comp_apply, utf8Bytes_eq, String.toList_ofList]

end Groundwork.Text
