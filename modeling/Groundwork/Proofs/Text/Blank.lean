import Mathlib.Data.List.DropRight
import Groundwork.Text.Blank

/-!
# Trimming

A text of blanks is trimmed to nothing (`trim_of_blank`), a text without blanks is left as it is
(`trim_of_not_blank`), and a text that is trimmed has nothing more to trim (`trim_trim`).  Trimming
stops at the first and at the last character that is not blank (`trimChars_append_cons`).
-/

namespace Groundwork.Text

variable {s : String} {cs : List Char}

theorem trim_of_blank (h : ∀ x ∈ s.toList, isBlank x = true) : trim s = "" := by
  have hdrop : s.toList.dropWhile isBlank = [] := List.dropWhile_eq_nil_iff.mpr h
  rw [trim, trimChars, hdrop]
  rfl

theorem dropBlankEnd_eq (cs : List Char) : dropBlankEnd cs = cs.rdropWhile isBlank :=
  rfl

/-- A text without blanks has nothing to trim. -/
theorem trim_of_not_blank (h : ∀ x ∈ s.toList, isBlank x = false) : trim s = s := by
  have hfront : s.toList.dropWhile isBlank = s.toList := by
    rw [List.dropWhile_eq_self_iff]
    intro hpos
    rw [h _ (List.getElem_mem hpos)]
    exact Bool.false_ne_true
  have hend : dropBlankEnd s.toList = s.toList := by
    rw [dropBlankEnd_eq, List.rdropWhile_eq_self_iff]
    intro hne
    rw [h _ (List.getLast_mem hne)]
    exact Bool.false_ne_true
  rw [trim, trimChars, hfront, hend, String.ofList_toList]

/-- What is not blank stops the dropping from the front. -/
theorem dropWhile_append_cons {x : Char} (h : isBlank x = false) (front rest : List Char) :
    (front ++ x :: rest).dropWhile isBlank = front.dropWhile isBlank ++ x :: rest := by
  induction front with
  | nil => rw [List.nil_append, List.dropWhile_nil, List.dropWhile_cons, h]; rfl
  | cons c cs ih =>
    rw [List.cons_append, List.dropWhile_cons, List.dropWhile_cons, ih]
    split <;> rfl

/-- What is not blank stops the dropping from the end. -/
theorem dropBlankEnd_append_cons {x : Char} (h : isBlank x = false) (front rest : List Char) :
    dropBlankEnd (front ++ x :: rest) = front ++ x :: dropBlankEnd rest := by
  have hreverse : (front ++ x :: rest).reverse = rest.reverse ++ x :: front.reverse := by simp
  rw [dropBlankEnd, hreverse, dropWhile_append_cons h]
  simp [dropBlankEnd]

theorem trimChars_append_cons {x : Char} (h : isBlank x = false) (front rest : List Char) :
    trimChars (front ++ x :: rest) = front.dropWhile isBlank ++ x :: dropBlankEnd rest := by
  rw [trimChars, dropWhile_append_cons h, dropBlankEnd_append_cons h]

theorem trimChars_sublist (cs : List Char) : (trimChars cs).Sublist cs := by
  rw [trimChars, dropBlankEnd_eq]
  exact (List.rdropWhile_prefix _ _).sublist.trans (List.dropWhile_sublist _)

theorem trimChars_dropWhile (cs : List Char) : trimChars (cs.dropWhile isBlank) = trimChars cs := by
  rw [trimChars, List.dropWhile_idempotent, trimChars]

theorem trimChars_dropBlankEnd (cs : List Char) : trimChars (dropBlankEnd cs) = trimChars cs := by
  by_cases hblank : ∀ x ∈ cs, isBlank x = true
  · have hfront : cs.dropWhile isBlank = [] := List.dropWhile_eq_nil_iff.mpr hblank
    have hend : dropBlankEnd cs = [] := by
      rw [dropBlankEnd_eq, List.rdropWhile_eq_nil_iff]
      exact hblank
    rw [hend, trimChars, trimChars, hfront]
    rfl
  · -- from the first character that is not blank on, only the end is dropped from
    push Not at hblank
    obtain ⟨x, hx, hnot⟩ := hblank
    replace hnot := Bool.eq_false_iff.mpr hnot
    obtain ⟨front, rest, rfl⟩ := List.append_of_mem hx
    rw [dropBlankEnd_append_cons hnot, trimChars_append_cons hnot, trimChars_append_cons hnot,
      dropBlankEnd_eq, dropBlankEnd_eq, List.rdropWhile_idempotent]

/-- Nothing is dropped from the front of what begins like a list from whose front nothing is
dropped. -/
theorem dropWhile_of_prefix {front : List Char} (h : front <+: cs)
    (hcs : cs.dropWhile isBlank = cs) : front.dropWhile isBlank = front := by
  rcases front with _ | ⟨x, front⟩
  · rfl
  · obtain ⟨rest, rfl⟩ := h
    rw [List.cons_append, List.dropWhile_cons] at hcs
    rw [List.dropWhile_cons]
    split at hcs
    · -- what was dropped cannot have come back
      have hlength := congrArg List.length hcs
      have hle := (List.dropWhile_sublist isBlank (l := front ++ rest)).length_le
      simp only [List.length_cons] at hlength
      omega
    · rename_i hx
      rw [if_neg hx]

theorem trimChars_trimChars (cs : List Char) : trimChars (trimChars cs) = trimChars cs := by
  have hfront : (trimChars cs).dropWhile isBlank = trimChars cs := by
    rw [trimChars, dropBlankEnd_eq]
    exact dropWhile_of_prefix (List.rdropWhile_prefix _ _) (List.dropWhile_idempotent _ _)
  conv => lhs; rw [trimChars, hfront]
  rw [trimChars, dropBlankEnd_eq, dropBlankEnd_eq, List.rdropWhile_idempotent]

theorem trim_trim (s : String) : trim (trim s) = trim s := by
  rw [trim, trim, String.toList_ofList, trimChars_trimChars]

end Groundwork.Text
