import Groundwork.Table
import Mathlib.Data.List.Induction

/-!
# Looking things up in small tables

How `get?` and `has` see a table that was appended to, that got a key (`get?_put_self`, `has_put`,
`put_of_not_has`), or that lost one (`get?_erase_self`, `has_erase`, `erase_append`).  A key that
was put into a table that did not have it can be taken out again without a trace.
-/

namespace Groundwork.Table

variable {κ α : Type} [DecidableEq κ] {t : Table κ α} {key other : κ} {value : α}

/-! ### Having a key -/

theorem has_eq_isSome_get? (t : Table κ α) (key : κ) : has t key = (get? t key).isSome := by
  unfold has get?
  rw [Option.isSome_map, List.isSome_find?]

theorem get?_eq_none_iff : get? t key = none ↔ has t key = false := by
  rw [has_eq_isSome_get?]
  cases get? t key <;> simp

theorem exists_get?_of_has (h : has t key = true) : ∃ v, get? t key = some v := by
  rw [has_eq_isSome_get?] at h
  exact Option.isSome_iff_exists.mp h

theorem has_append (t u : Table κ α) (key : κ) : has (t ++ u) key = (has t key || has u key) := by
  unfold has
  rw [List.any_append]

theorem has_singleton : has [(other, value)] key = decide (other = key) := by
  simp [has]

theorem get?_append (t u : Table κ α) (key : κ) :
    get? (t ++ u) key = (get? t key).or (get? u key) := by
  unfold get?
  rw [List.find?_append, Option.map_or]

theorem get?_singleton_self : get? [(key, value)] key = some value := by
  simp [get?]

/-! ### Putting and taking away -/

theorem put_of_not_has (h : has t key = false) : put key value t = t ++ [(key, value)] := by
  induction t with
  | nil => rfl
  | cons entry rest ih =>
    obtain ⟨hne, hrest⟩ : entry.1 ≠ key ∧ has rest key = false := by
      simpa [has] using h
    show (if entry.1 = key then (key, value) :: rest else entry :: put key value rest) = _
    rw [if_neg hne, ih hrest]
    rfl

/-- A list of pairs with keys that differ is a table as it is. -/
theorem ofList_of_nodup {pairs : List (κ × α)} (h : (pairs.map Prod.fst).Nodup) :
    ofList pairs = pairs := by
  induction pairs using List.reverseRecOn with
  | nil => rfl
  | append_singleton pairs p ih =>
    rw [List.map_append, List.nodup_append] at h
    obtain ⟨hpairs, -, hdisjoint⟩ := h
    have hnew : has pairs p.1 = false := by
      rw [has, List.any_eq_false]
      intro entry hentry
      simpa using hdisjoint entry.1 (List.mem_map_of_mem hentry) p.1 (List.mem_singleton_self _)
    unfold ofList at ih ⊢
    rw [List.foldl_append, ih hpairs]
    exact put_of_not_has hnew

theorem erase_of_not_has (h : has t key = false) : erase t key = t := by
  unfold erase
  rw [List.filter_eq_self]
  intro entry hmem
  have hne : ¬(entry.1 = key) := by
    intro heq
    have : has t key = true := List.any_eq_true.mpr ⟨entry, hmem, by simpa using heq⟩
    rw [h] at this
    exact absurd this (by decide)
  simpa using hne

theorem get?_erase_self (t : Table κ α) (key : κ) : get? (erase t key) key = none := by
  rw [get?_eq_none_iff, has, List.any_eq_false]
  intro entry hmem
  have hne := (List.mem_filter.mp hmem).2
  simpa using hne

theorem get?_erase_of_ne (h : other ≠ key) : get? (erase t key) other = get? t other := by
  unfold get? erase
  rw [List.find?_filter]
  congr 2
  funext entry
  by_cases hentry : entry.1 = other
  · simp [hentry, h]
  · simp [hentry]

theorem has_put (t : Table κ α) (key other : κ) (value : α) :
    has (put key value t) other = (has t other || decide (key = other)) := by
  induction t with
  | nil => simp [put, has]
  | cons entry rest ih =>
    show has (if entry.1 = key then (key, value) :: rest else entry :: put key value rest) other = _
    by_cases hentry : entry.1 = key
    · simp only [hentry, ↓reduceIte, has, List.any_cons]
      cases decide (key = other) <;> simp
    · rw [if_neg hentry]
      replace ih : (put key value rest).any _ = _ := ih
      simp only [has, List.any_cons, ih, Bool.or_assoc]

theorem get?_put_self (t : Table κ α) (key : κ) (value : α) :
    get? (put key value t) key = some value := by
  induction t with
  | nil => exact get?_singleton_self
  | cons entry rest ih =>
    show get? (if entry.1 = key then (key, value) :: rest else entry :: put key value rest) key = _
    by_cases hentry : entry.1 = key
    · simp [hentry, get?]
    · replace ih : ((put key value rest).find? _).map _ = some value := ih
      simp [hentry, get?, ih]

theorem get?_put_of_ne (t : Table κ α) (value : α) (h : other ≠ key) :
    get? (put key value t) other = get? t other := by
  induction t with
  | nil => simp [put, get?, Ne.symm h]
  | cons entry rest ih =>
    show get? (if entry.1 = key then (key, value) :: rest else entry :: put key value rest) other = _
    by_cases hentry : entry.1 = key
    · simp [hentry, get?, Ne.symm h]
    · rw [if_neg hentry]
      replace ih : ((put key value rest).find? _).map _ = _ := ih
      by_cases hother : entry.1 = other
      · simp [hother, get?]
      · simp [hother, get?, ih]

theorem has_erase (t : Table κ α) (key other : κ) :
    has (erase t key) other = (has t other && decide (other ≠ key)) := by
  by_cases h : other = key
  · subst h
    rw [get?_eq_none_iff.mp (get?_erase_self t other)]
    simp
  · rw [has_eq_isSome_get?, get?_erase_of_ne h, ← has_eq_isSome_get?]
    simp [h]

theorem erase_append (t u : Table κ α) (key : κ) :
    erase (t ++ u) key = erase t key ++ erase u key := by
  unfold erase
  rw [List.filter_append]

theorem erase_singleton_self : erase [(key, value)] key = [] := by
  simp [erase]

end Groundwork.Table
