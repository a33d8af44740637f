import Mathlib.Data.List.Induction
import Groundwork.Proofs.Settings.Keys

/-!
# The order of settings

A setting that is put in takes the place of the one with its key, so a list that is built one by one
has every key once, in the order in which the keys first came (`map_key_ofList`).  To merge a list
that was built so is to put in, one after the other, what it was built from (`merge_ofList`): a
setting that another one replaced has left its place behind.
-/

namespace Groundwork.Settings

variable {ss other : Settings} {s t : Setting} {entries added : List Setting}

/-! ### One setting -/

theorem key_mem_insertEntry (h : s.key ∈ entries.map Setting.key) (t : Setting) :
    s.key ∈ (insertEntry t entries).map Setting.key := by
  rw [map_key_insertEntry]
  split
  · exact h
  · exact List.mem_append_left _ h

theorem key_mem_insertEntry_self (s : Setting) (entries : List Setting) :
    s.key ∈ (insertEntry s entries).map Setting.key := by
  rw [map_key_insertEntry]
  split
  · assumption
  · exact List.mem_append_right _ (List.mem_singleton_self _)

/-- Of two settings with one key that are put in, only the second is left. -/
theorem insertEntry_of_key_eq (h : t.key = s.key) (entries : List Setting) :
    insertEntry s (insertEntry t entries) = insertEntry s entries := by
  induction entries with
  | nil => exact if_pos h
  | cons first rest ih =>
    by_cases hkey : first.key = t.key
    · rw [insertEntry, if_pos hkey, insertEntry, if_pos h, insertEntry, if_pos (hkey.trans h)]
    · have hne : first.key ≠ s.key := h ▸ hkey
      rw [insertEntry, if_neg hkey, insertEntry, if_neg hne, insertEntry, if_neg hne, ih]

/-- A setting whose key has its place already may as well be put in before one of another key. -/
theorem insertEntry_comm (hs : s.key ∈ entries.map Setting.key) (hne : t.key ≠ s.key) :
    insertEntry s (insertEntry t entries) = insertEntry t (insertEntry s entries) := by
  induction entries with
  | nil => cases hs
  | cons first rest ih =>
    by_cases hfirst : first.key = s.key
    · have hother : first.key ≠ t.key := fun heq => hne (heq.symm.trans hfirst)
      have hother' : s.key ≠ t.key := hne.symm
      simp only [insertEntry, if_pos hfirst, if_neg hother, if_neg hother']
    · have hrest : s.key ∈ rest.map Setting.key := by
        rw [List.map_cons, List.mem_cons] at hs
        exact hs.resolve_left fun heq => hfirst heq.symm
      by_cases hother : first.key = t.key
      · simp only [insertEntry, if_neg hfirst, if_pos hother, if_neg hne]
      · simp only [insertEntry, if_neg hfirst, if_neg hother, ih hrest]

/-! ### Many settings -/

theorem insertAll_append (ss : Settings) (added more : List Setting) :
    ss.insertAll (added ++ more) = (ss.insertAll added).insertAll more :=
  List.foldl_append ..

theorem ofList_append_singleton (added : List Setting) (s : Setting) :
    ofList (added ++ [s]) = (ofList added).insert s :=
  insertAll_append _ _ _

/-- The keys of a list are those that it was built from, each where it first came. -/
theorem map_key_ofList (added : List Setting) :
    (ofList added).entries.map Setting.key = (added.map Setting.key).eraseDups := by
  induction added using List.reverseRecOn with
  | nil => rfl
  | append_singleton added s ih =>
    rw [ofList_append_singleton, insert, map_key_insertEntry, ih, List.map_append,
      List.map_singleton, List.eraseDups_append]
    simp only [List.mem_eraseDups]
    by_cases hmem : s.key ∈ added.map Setting.key
    · rw [if_pos hmem, List.removeAll, List.filter_cons_of_neg (by simpa using hmem)]
      exact (List.append_nil _).symm
    · rw [if_neg hmem, List.removeAll, List.filter_cons_of_pos (by simpa using hmem)]
      rfl

/-- A setting whose key has its place already may as well be put in before those of other keys. -/
theorem insert_insertAll (hs : s.key ∈ ss.entries.map Setting.key)
    (hne : ∀ t ∈ added, t.key ≠ s.key) :
    (ss.insertAll added).insert s = (ss.insert s).insertAll added := by
  induction added generalizing ss with
  | nil => rfl
  | cons t rest ih =>
    obtain ⟨ht, hrest⟩ := List.forall_mem_cons.mp hne
    have hcomm : (ss.insert t).insert s = (ss.insert s).insert t :=
      congrArg Settings.mk (insertEntry_comm hs ht)
    calc ((ss.insert t).insertAll rest).insert s
        = ((ss.insert t).insert s).insertAll rest := ih (key_mem_insertEntry hs t) hrest
      _ = ((ss.insert s).insert t).insertAll rest := by rw [hcomm]

theorem merge_insert (h : other.Keyed) (ss : Settings) (s : Setting) :
    ss.merge (other.insert s) = (ss.merge other).insert s := by
  obtain ⟨entries⟩ := other
  simp only [merge, insert]
  induction entries generalizing ss with
  | nil => rfl
  | cons t rest ih =>
    obtain ⟨hfresh, hrest⟩ := List.nodup_cons.mp h
    rw [insertEntry]
    by_cases hkey : t.key = s.key
    · -- no later setting has the key, so `s` may come in right behind `t`, and takes its place
      have hne : ∀ r ∈ rest, r.key ≠ s.key := fun r hr heq =>
        hfresh (List.mem_map.mpr ⟨r, hr, heq.trans hkey.symm⟩)
      have hplace : s.key ∈ (ss.insert t).entries.map Setting.key :=
        hkey ▸ key_mem_insertEntry_self t ss.entries
      have hreplace : (ss.insert t).insert s = ss.insert s :=
        congrArg Settings.mk (insertEntry_of_key_eq hkey ss.entries)
      rw [if_pos hkey]
      calc (ss.insert s).insertAll rest
          = ((ss.insert t).insert s).insertAll rest := by rw [hreplace]
        _ = ((ss.insert t).insertAll rest).insert s := (insert_insertAll hplace hne).symm
    · rw [if_neg hkey]
      exact ih (ss.insert t) hrest

theorem merge_ofList (ss : Settings) (added : List Setting) :
    ss.merge (ofList added) = ss.insertAll added := by
  induction added using List.reverseRecOn with
  | nil => rfl
  | append_singleton added s ih =>
    rw [ofList_append_singleton, merge_insert (keyed_ofList added), ih, insertAll_append]
    rfl

end Groundwork.Settings
