import Mathlib.Data.List.Nodup
import Groundwork.Proofs.Traversal
import Groundwork.Settings

/-!
# Looking things up in lists of settings

What `find?` sees in a list after `insert`, `insertAll` and `merge`: the setting that was put in
last with the name and scope (`find?_insert`, `find?_insertAll`, `find?_merge`).  Lists that are
built by `insert` hold each key once (`Keyed`), and in such a list looking up the key of a setting
finds the setting itself (`Keyed.find?_of_mem`).
-/

namespace Groundwork.Settings

variable {ss other : Settings} {s t : Setting} {name : String} {scope : Scope} {unit : String}

/-! ### Looking up -/

theorem find?_eq_some (h : ss.find? name scope = some s) :
    s ∈ ss.entries ∧ s.name = name ∧ s.scope = scope := by
  have hkey := List.find?_some h
  simp only [Bool.and_eq_true, decide_eq_true_eq] at hkey
  exact ⟨List.mem_of_find?_eq_some h, hkey⟩

theorem find?_eq_none_iff :
    ss.find? name scope = none ↔ ∀ s ∈ ss.entries, ¬(s.name = name ∧ s.scope = scope) := by
  simp [find?, List.find?_eq_none]

/-- Private settings have the id of a unit if and only if they have its scope, also where the id is
empty, as that of a shared setting is. -/
theorem findOwn?_eq (ss : Settings) (name unit : String) :
    ss.findOwn? name unit = ss.find? name (.unit unit) := by
  rw [findOwn?, find?]
  congr 1
  funext s
  rw [Bool.eq_iff_iff]
  simp only [Bool.and_eq_true, decide_eq_true_eq]
  cases hscope : s.scope with
  | shared => simp [Scope.isShared]
  | unit id => simp [Scope.isShared, Scope.id]

theorem findShared?_eq (ss : Settings) (name : String) :
    ss.findShared? name = ss.find? name .shared := by
  rw [findShared?, find?]
  congr 1
  funext s
  cases hscope : s.scope with
  | shared => simp [Scope.isShared]
  | unit id => simp [Scope.isShared]

/-- What a unit means by a name, in terms of scopes. -/
theorem get?_eq (ss : Settings) (name : String) (unit : Option String) :
    ss.get? name unit =
      (unit.bind fun id => ss.find? name (.unit id)).or (ss.find? name .shared) := by
  rw [get?, findShared?_eq]
  congr 2
  funext id
  exact ss.findOwn?_eq name id

theorem find?_insert (ss : Settings) (s : Setting) (name : String) (scope : Scope) :
    (ss.insert s).find? name scope =
      if s.name = name ∧ s.scope = scope then some s else ss.find? name scope := by
  obtain ⟨entries⟩ := ss
  simp only [insert, find?]
  induction entries with
  | nil =>
    rw [insertEntry, List.find?_singleton]
    simp
  | cons t rest ih =>
    rw [insertEntry]
    by_cases hkey : t.key = s.key
    · obtain ⟨hname, hscope⟩ := Prod.mk.inj hkey
      rw [if_pos hkey, List.find?_cons, List.find?_cons, hname, hscope]
      by_cases hs : s.name = name ∧ s.scope = scope
      · simp [hs]
      · have hfalse : (s.name = name && s.scope = scope : Bool) = false := by simpa using hs
        simp only [hfalse, if_neg hs]
    · rw [if_neg hkey, List.find?_cons, List.find?_cons, ih]
      rcases ht : (t.name = name && t.scope = scope : Bool)
      · rfl
      · -- `t` has the key that is looked up, so `s` has not
        simp only [Bool.and_eq_true, decide_eq_true_eq] at ht
        have hne : ¬(s.name = name ∧ s.scope = scope) := by
          rintro ⟨rfl, rfl⟩
          exact hkey (Prod.ext ht.1 ht.2)
        simp only [if_neg hne]

theorem find?_insertAll (ss : Settings) (added : List Setting) (name : String) (scope : Scope) :
    (ss.insertAll added).find? name scope =
      (find? ⟨added.reverse⟩ name scope).or (ss.find? name scope) := by
  induction added generalizing ss with
  | nil => rfl
  | cons s rest ih =>
    show ((ss.insert s).insertAll rest).find? name scope = _
    rw [ih, find?_insert]
    simp only [find?, List.reverse_cons, List.find?_append, List.find?_singleton, Option.or_assoc]
    congr 1
    by_cases hs : s.name = name ∧ s.scope = scope
    · simp [hs]
    · have hfalse : (s.name = name && s.scope = scope : Bool) = false := by simpa using hs
      simp [hs, hfalse]

theorem find?_ofList (added : List Setting) (name : String) (scope : Scope) :
    (ofList added).find? name scope = find? ⟨added.reverse⟩ name scope := by
  rw [ofList, find?_insertAll]
  exact Option.or_none

/-! ### Keys -/

/-- No two settings of the list have the same key. -/
def Keyed (ss : Settings) : Prop :=
  (ss.entries.map Setting.key).Nodup

theorem keyed_empty : Keyed ∅ :=
  List.nodup_nil

theorem mem_insertEntry {entries : List Setting} (h : t ∈ insertEntry s entries) :
    t = s ∨ t ∈ entries := by
  induction entries with
  | nil => exact Or.inl (List.mem_singleton.mp h)
  | cons first rest ih =>
    rw [insertEntry] at h
    split at h
    · rcases List.mem_cons.mp h with rfl | hrest
      · exact Or.inl rfl
      · exact Or.inr (List.mem_cons_of_mem _ hrest)
    · rcases List.mem_cons.mp h with rfl | hrest
      · exact Or.inr (List.mem_cons_self ..)
      · exact (ih hrest).imp_right (List.mem_cons_of_mem _)

theorem map_key_insertEntry (s : Setting) (entries : List Setting) :
    (insertEntry s entries).map Setting.key =
      if s.key ∈ entries.map Setting.key then entries.map Setting.key
      else entries.map Setting.key ++ [s.key] := by
  induction entries with
  | nil => rfl
  | cons first rest ih =>
    rw [insertEntry]
    by_cases hkey : first.key = s.key
    · rw [if_pos hkey, List.map_cons, List.map_cons, hkey, if_pos (List.mem_cons_self ..)]
    · rw [if_neg hkey, List.map_cons, List.map_cons, ih]
      by_cases hmem : s.key ∈ rest.map Setting.key
      · rw [if_pos hmem, if_pos (List.mem_cons_of_mem _ hmem)]
      · have hnew : s.key ∉ first.key :: rest.map Setting.key := by
          rw [List.mem_cons]
          rintro (heq | hrest)
          · exact hkey heq.symm
          · exact hmem hrest
        rw [if_neg hmem, if_neg hnew, List.cons_append]

theorem Keyed.insert (h : ss.Keyed) (s : Setting) : (ss.insert s).Keyed := by
  rw [Keyed, Settings.insert, map_key_insertEntry]
  split
  · exact h
  · rename_i hnew
    exact List.nodup_append.mpr ⟨h, List.nodup_singleton _, fun key hkey other hother heq =>
      hnew (List.mem_singleton.mp hother ▸ heq ▸ hkey)⟩

theorem Keyed.insertAll (h : ss.Keyed) (added : List Setting) : (ss.insertAll added).Keyed := by
  induction added generalizing ss with
  | nil => exact h
  | cons s rest ih => exact ih (h.insert s)

theorem keyed_ofList (added : List Setting) : (ofList added).Keyed :=
  keyed_empty.insertAll added

theorem mem_insertAll {added : List Setting} (h : t ∈ (ss.insertAll added).entries) :
    t ∈ added ∨ t ∈ ss.entries := by
  induction added generalizing ss with
  | nil => exact Or.inr h
  | cons s rest ih =>
    rcases ih h with hrest | hinserted
    · exact Or.inl (List.mem_cons_of_mem _ hrest)
    · rcases mem_insertEntry hinserted with rfl | hold
      · exact Or.inl (List.mem_cons_self ..)
      · exact Or.inr hold

/-- In a keyed list a setting is found under its key. -/
theorem Keyed.find?_of_mem (h : ss.Keyed) (hs : s ∈ ss.entries) :
    ss.find? s.name s.scope = some s := by
  rcases hfound : ss.find? s.name s.scope with _ | t
  · exact absurd ⟨rfl, rfl⟩ (find?_eq_none_iff.mp hfound s hs)
  · -- what is found has the same key, so it is the setting itself
    obtain ⟨ht, hname, hscope⟩ := find?_eq_some hfound
    rw [List.inj_on_of_nodup_map h ht hs (Prod.ext hname hscope)]

theorem Keyed.find?_eq_some_iff (h : ss.Keyed) :
    ss.find? name scope = some s ↔ s ∈ ss.entries ∧ s.name = name ∧ s.scope = scope := by
  constructor
  · exact find?_eq_some
  · rintro ⟨hs, rfl, rfl⟩
    exact h.find?_of_mem hs

theorem Keyed.find?_reverse (h : ss.Keyed) (name : String) (scope : Scope) :
    find? ⟨ss.entries.reverse⟩ name scope = ss.find? name scope := by
  have hreverse : Keyed ⟨ss.entries.reverse⟩ := by
    rw [Keyed, List.map_reverse]
    exact List.nodup_reverse.mpr h
  rcases hfound : ss.find? name scope with _ | s
  · rw [find?_eq_none_iff] at hfound ⊢
    exact fun t ht => hfound t (List.mem_reverse.mp ht)
  · obtain ⟨hs, rfl, rfl⟩ := find?_eq_some hfound
    exact hreverse.find?_of_mem (List.mem_reverse.mpr hs)

/-- A keyed list that is merged into another one wins. -/
theorem find?_merge (ss : Settings) (h : other.Keyed) (name : String) (scope : Scope) :
    (ss.merge other).find? name scope = (other.find? name scope).or (ss.find? name scope) := by
  rw [merge, find?_insertAll, h.find?_reverse]

/-! ### Parts of a list -/

/-- A list whose settings are matched one by one by those of another list, key by key and in what
`f` sees of them, gives the same to every look-up. -/
theorem map_find?_of_forall₂ {α β : Type} {l : List α} {entries : List Setting}
    {R : α → Setting → Prop} {p : α → Bool} {q : Setting → Bool} {f : α → β} {g : Setting → β}
    (h : List.Forall₂ R l entries) (hR : ∀ a s, R a s → p a = q s ∧ f a = g s) :
    (l.find? p).map f = (entries.find? q).map g := by
  have hfound := rel_find?_of_forall₂ h fun a s has => (hR a s has).1
  generalize l.find? p = first, entries.find? q = found at hfound ⊢
  cases hfound with
  | none => rfl
  | some has => exact congrArg some (hR _ _ has).2

/-- A list made from another one, one by one, holds what is made of the first match. -/
theorem find?_of_forall₂ {α : Type} {l : List α} {entries : List Setting} {R : α → Setting → Prop}
    {p : α → Bool} {q : Setting → Bool} {f : α → Option Setting} (h : List.Forall₂ R l entries)
    (hR : ∀ a s, R a s → p a = q s ∧ f a = some s) : entries.find? q = (l.find? p).bind f := by
  have hfound := rel_find?_of_forall₂ h fun a s has => (hR a s has).1
  generalize l.find? p = first, entries.find? q = found at hfound ⊢
  cases hfound with
  | none => rfl
  | some has => exact (hR _ _ has).2.symm

/-- What changes no key changes what is found, and nothing else. -/
theorem find?_map (ss : Settings) {f : Setting → Setting} (hf : ∀ s, (f s).key = s.key)
    (name : String) (scope : Scope) :
    find? ⟨ss.entries.map f⟩ name scope = (ss.find? name scope).map f := by
  rw [find?, List.find?_map, find?]
  congr 2
  funext s
  obtain ⟨hname, hscope⟩ := Prod.mk.inj (hf s)
  rw [Function.comp_apply, hname, hscope]

theorem key_clearShared (s : Setting) :
    (if s.scope.isShared then s.reset else s).key = s.key := by
  split <;> rfl

theorem find?_clearShared (ss : Settings) (name : String) (scope : Scope) :
    ss.clearShared.find? name scope =
      (ss.find? name scope).map fun s => if s.scope.isShared then s.reset else s :=
  ss.find?_map key_clearShared name scope

/-- Where no setting has a value, none is taken away. -/
theorem clearShared_of_pending (h : ∀ s ∈ ss.entries, s.choice = .pending) :
    ss.clearShared = ss := by
  have hreset : ∀ s ∈ ss.entries, (if s.scope.isShared then s.reset else s) = s := by
    intro s hs
    have hpending := h s hs
    split
    · obtain ⟨_, _, _, _, _, choice⟩ := s
      cases hpending
      rfl
    · rfl
  rw [clearShared, List.map_congr_left hreset, List.map_id']

theorem keyed_clearShared (h : ss.Keyed) : ss.clearShared.Keyed := by
  rw [Keyed, clearShared, List.map_map]
  have hkey : Setting.key ∘ (fun s : Setting => if s.scope.isShared then s.reset else s) =
      Setting.key := funext key_clearShared
  rw [hkey]
  exact h

theorem Keyed.viewFor (h : ss.Keyed) (unit : String) : (ss.viewFor unit).Keyed :=
  h.sublist (List.filter_sublist.map _)

theorem find?_viewFor (ss : Settings) (h : scope = .shared ∨ scope = .unit unit) :
    (ss.viewFor unit).find? name scope = ss.find? name scope := by
  rw [viewFor, find?, List.find?_filter, find?]
  congr 1
  funext s
  by_cases hs : s.scope = scope
  · rcases h with rfl | rfl <;> simp [hs]
  · simp [hs]

/-- A unit means the same by a name in what it sees as in the whole list. -/
theorem get?_viewFor (ss : Settings) (name unit : String) :
    (ss.viewFor unit).get? name (some unit) = ss.get? name (some unit) := by
  simp only [get?_eq, Option.bind_some, ss.find?_viewFor (Or.inl rfl),
    ss.find?_viewFor (Or.inr rfl)]

end Groundwork.Settings
