import Groundwork.Text.Search

/-!
# Cutting at marks

What has no mark is one piece, and a mark separates the pieces of what stands before it from those
of what stands after it (`splitChars_append_mark`).  Only the first mark is cut at
(`cutChars_append_mark`).
-/

namespace Groundwork.Text

variable {mark : Char} {before cs : List Char}

/-! ### At every mark -/

theorem splitChars_ne_nil (mark : Char) (cs : List Char) : splitChars mark cs ≠ [] := by
  cases cs with
  | nil => exact List.cons_ne_nil _ _
  | cons c rest =>
    rw [splitChars]
    split
    · exact List.cons_ne_nil _ _
    · split <;> exact List.cons_ne_nil _ _

theorem splitChars_of_not_mem (h : mark ∉ cs) : splitChars mark cs = [cs] := by
  induction cs with
  | nil => rfl
  | cons c rest ih =>
    obtain ⟨hne, hrest⟩ := not_or.mp (mt List.mem_cons.mpr h)
    rw [splitChars, if_neg fun heq => hne heq.symm, ih hrest]

theorem splitChars_append_mark (mark : Char) (before after : List Char) :
    splitChars mark (before ++ mark :: after) =
      splitChars mark before ++ splitChars mark after := by
  induction before with
  | nil => simp [splitChars]
  | cons c rest ih =>
    rw [List.cons_append, splitChars, splitChars]
    split
    · rw [ih, List.cons_append]
    · -- the piece that `c` begins is the first one before the mark
      obtain ⟨piece, pieces, hpieces⟩ := List.exists_cons_of_ne_nil (splitChars_ne_nil mark rest)
      rw [ih, hpieces]
      rfl

/-! ### At the first mark -/

theorem cutChars_of_not_mem (h : mark ∉ cs) : cutChars mark cs = none := by
  induction cs with
  | nil => rfl
  | cons c rest ih =>
    obtain ⟨hne, hrest⟩ := not_or.mp (mt List.mem_cons.mpr h)
    rw [cutChars, if_neg fun heq => hne heq.symm, ih hrest]
    rfl

theorem cutChars_append_mark (h : mark ∉ before) (after : List Char) :
    cutChars mark (before ++ mark :: after) = some (before, after) := by
  induction before with
  | nil => simp [cutChars]
  | cons c rest ih =>
    obtain ⟨hne, hrest⟩ := not_or.mp (mt List.mem_cons.mpr h)
    simp [cutChars, Ne.symm hne, ih hrest]

end Groundwork.Text
