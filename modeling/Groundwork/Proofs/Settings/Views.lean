import Groundwork.Proofs.Settings.Merging

/-!
# What a unit sees

Whether a unit sees a setting depends on the key of the setting alone.  So it makes no difference
whether a setting is put in before a view is taken or, if the unit sees it, afterwards
(`viewFor_insert`), and the view of a merge is the merge of the views (`viewFor_merge`).  A name
means the same in a view as in the whole list (`get?_eq_some_iff`), and two units have no more in
common than what is shared (`mem_viewFor_viewFor`).
-/

namespace Groundwork.Settings

variable {a : Settings} {s t : Setting} {name unit other : String}

/-! ### Seeing -/

/-- Whether a unit sees a setting. -/
def sees (unit : String) (s : Setting) : Bool :=
  s.scope = .shared || s.scope = .unit unit

theorem sees_iff : sees unit s = true ↔ s.scope = .shared ∨ s.scope = .unit unit := by
  simp [sees]

theorem sees_congr (unit : String) (h : s.key = t.key) : sees unit s = sees unit t := by
  have hscope : s.scope = t.scope := (Prod.mk.inj h).2
  simp only [sees, hscope]

theorem entries_viewFor (a : Settings) (unit : String) :
    (a.viewFor unit).entries = a.entries.filter (sees unit) :=
  rfl

theorem mem_viewFor :
    s ∈ (a.viewFor unit).entries ↔ s ∈ a.entries ∧ (s.scope = .shared ∨ s.scope = .unit unit) := by
  rw [entries_viewFor, List.mem_filter, sees_iff]

/-! ### Views and merges -/

/-- A part that is chosen by keys has a setting that is put in where the whole list has it. -/
theorem filter_insertEntry {p : Setting → Bool} (hp : ∀ s t : Setting, s.key = t.key → p s = p t)
    (s : Setting) (entries : List Setting) :
    (insertEntry s entries).filter p =
      if p s then insertEntry s (entries.filter p) else entries.filter p := by
  induction entries with
  | nil => rcases hs : p s <;> simp [insertEntry, hs]
  | cons t rest ih =>
    rw [insertEntry]
    by_cases hkey : t.key = s.key
    · -- the two are chosen alike, and `s` takes the place of `t` in the part as well
      have hts : p t = p s := hp t s hkey
      rw [if_pos hkey]
      rcases hs : p s
      · simp [hs, hts]
      · simp [hs, hts, insertEntry, hkey]
    · -- `t` stays where it is, in the part only if it is chosen
      rw [if_neg hkey]
      rcases ht : p t
      · simp [ht, ih]
      · rcases hs : p s
        · simp [ht, hs, ih]
        · simp [ht, hs, ih, insertEntry, hkey]

theorem viewFor_insert (a : Settings) (s : Setting) (unit : String) :
    (a.insert s).viewFor unit = if sees unit s then (a.viewFor unit).insert s else a.viewFor unit := by
  have hentries := filter_insertEntry (fun s t => sees_congr unit) s a.entries
  have hview : (a.insert s).viewFor unit = ⟨(insertEntry s a.entries).filter (sees unit)⟩ := rfl
  rw [hview, hentries]
  split <;> rfl

theorem viewFor_insertAll (a : Settings) (added : List Setting) (unit : String) :
    (a.insertAll added).viewFor unit = (a.viewFor unit).insertAll (added.filter (sees unit)) := by
  induction added generalizing a with
  | nil => rfl
  | cons s rest ih =>
    show ((a.insert s).insertAll rest).viewFor unit = _
    rw [ih, viewFor_insert, List.filter_cons]
    split <;> rfl

/-- The view of a merge is the merge of the views. -/
theorem viewFor_merge (a b : Settings) (unit : String) :
    (a.merge b).viewFor unit = (a.viewFor unit).merge (b.viewFor unit) :=
  viewFor_insertAll a b.entries unit

/-- A keyed list is what comes of putting its settings into the empty list. -/
theorem ofList_entries (ha : a.Keyed) : ofList a.entries = a :=
  empty_merge ha

/-! ### Views of views -/

theorem viewFor_viewFor_self (a : Settings) (unit : String) :
    (a.viewFor unit).viewFor unit = a.viewFor unit := by
  have hentries : ((a.viewFor unit).viewFor unit).entries = (a.viewFor unit).entries := by
    rw [entries_viewFor, entries_viewFor, List.filter_filter]
    simp only [Bool.and_self]
  exact congrArg Settings.mk hentries

/-- What two units both see is shared. -/
theorem mem_viewFor_viewFor (hne : unit ≠ other) :
    s ∈ ((a.viewFor unit).viewFor other).entries ↔ s ∈ a.entries ∧ s.scope = .shared := by
  rw [mem_viewFor, mem_viewFor]
  constructor
  · rintro ⟨⟨hs, hunit⟩, hother⟩
    refine ⟨hs, ?_⟩
    rcases hunit with hshared | hunit
    · exact hshared
    · -- the private settings of one unit are not those of the other
      rcases hother with hshared | hother
      · exact hshared
      · have hscope : Scope.unit unit = Scope.unit other := hunit.symm.trans hother
        exact absurd (Scope.unit.inj hscope) hne
  · rintro ⟨hs, hshared⟩
    exact ⟨⟨hs, Or.inl hshared⟩, Or.inl hshared⟩

/-! ### Names -/

/-- A unit means by a name its private setting of that name, or the shared one where it has no
private one. -/
def Means (a : Settings) (unit name : String) (s : Setting) : Prop :=
  s ∈ a.entries ∧ s.name = name ∧
    (s.scope = .unit unit ∨
      s.scope = .shared ∧ ∀ t ∈ a.entries, ¬(t.name = name ∧ t.scope = .unit unit))

theorem get?_eq_some_iff (ha : a.Keyed) :
    a.get? name (some unit) = some s ↔ a.Means unit name s := by
  rw [get?_eq, Option.bind_some, Option.or_eq_some_iff, find?_eq_none_iff, ha.find?_eq_some_iff,
    ha.find?_eq_some_iff, Means]
  constructor
  · rintro (⟨hs, hname, hscope⟩ | ⟨hnone, hs, hname, hscope⟩)
    · exact ⟨hs, hname, Or.inl hscope⟩
    · exact ⟨hs, hname, Or.inr ⟨hscope, hnone⟩⟩
  · rintro ⟨hs, hname, hscope | ⟨hscope, hnone⟩⟩
    · exact Or.inl ⟨hs, hname, hscope⟩
    · exact Or.inr ⟨hnone, hs, hname, hscope⟩

theorem get?_none_eq_some_iff (ha : a.Keyed) :
    a.get? name none = some s ↔ s ∈ a.entries ∧ s.name = name ∧ s.scope = .shared := by
  rw [get?_eq, Option.bind_none, Option.none_or, ha.find?_eq_some_iff]

theorem get?_none_viewFor (a : Settings) (name unit : String) :
    (a.viewFor unit).get? name none = a.get? name none := by
  rw [get?_eq, get?_eq, Option.bind_none, Option.bind_none, a.find?_viewFor (Or.inl rfl)]

/-- The view of a unit is faithful.  It keeps exactly what is shared and what is private to the unit,
in order and unchanged, and putting this together again gives the view.  A name means the same in it
as in the whole list, to the unit and to all.  Views and merges can be exchanged, a view of a view is
that view, and the view of another unit leaves only what is shared. -/
theorem view_faithful (ha : a.Keyed) (unit : String) :
    (a.viewFor unit).entries.Sublist a.entries ∧
      (∀ s, s ∈ (a.viewFor unit).entries ↔
        s ∈ a.entries ∧ (s.scope = .shared ∨ s.scope = .unit unit)) ∧
      ofList (a.viewFor unit).entries = a.viewFor unit ∧
      (∀ name, (a.viewFor unit).get? name (some unit) = a.get? name (some unit) ∧
        (a.viewFor unit).get? name none = a.get? name none ∧
        ∀ s, (a.get? name (some unit) = some s ↔ a.Means unit name s) ∧
          (a.get? name none = some s ↔ s ∈ a.entries ∧ s.name = name ∧ s.scope = .shared)) ∧
      (∀ b : Settings, (a.merge b).viewFor unit = (a.viewFor unit).merge (b.viewFor unit)) ∧
      (a.viewFor unit).viewFor unit = a.viewFor unit ∧
      ∀ other, unit ≠ other → ∀ s, s ∈ ((a.viewFor unit).viewFor other).entries ↔
        s ∈ a.entries ∧ s.scope = .shared := by
  refine ⟨List.filter_sublist, fun s => mem_viewFor, ofList_entries (ha.viewFor unit), ?_,
    fun b => viewFor_merge a b unit, viewFor_viewFor_self a unit, fun other hne s => mem_viewFor_viewFor hne⟩
  intro name
  exact ⟨get?_viewFor a name unit, get?_none_viewFor a name unit,
    fun s => ⟨get?_eq_some_iff ha, get?_none_eq_some_iff ha⟩⟩

/-- One name for a shared text, a text of the unit with the empty id and a text of another unit. -/
def namesakes : Settings :=
  ofList [{ name := "email", default := .string "team@example.com" },
    { name := "email", scope := .unit "", default := .string "nobody@example.com" },
    { name := "email", scope := .unit "gitea", default := .string "git@example.com" }]

/-- Another text of the unit with the empty id. -/
def renamed : Settings :=
  ofList [{ name := "email", scope := .unit "", default := .string "anybody@example.com" }]

theorem view_faithful_namesakes :
    (namesakes.Keyed ∧ "" ≠ "gitea") ∧
      (namesakes.viewFor "").entries.map Setting.key = [("email", .shared), ("email", .unit "")] ∧
      ((namesakes.viewFor "").get? "email" (some "")).map Setting.default =
        some (.string "nobody@example.com") ∧
      ((namesakes.viewFor "").get? "email" none).map Setting.default =
        some (.string "team@example.com") ∧
      (namesakes.merge renamed).viewFor "" = (namesakes.viewFor "").merge (renamed.viewFor "") ∧
      ∀ s ∈ ((namesakes.viewFor "").viewFor "gitea").entries, s.scope = .shared := by
  have hnamesakes : namesakes.Keyed := keyed_ofList _
  have hne : "" ≠ "gitea" := by decide
  obtain ⟨-, -, -, hget, hmerge, -, hcommon⟩ := view_faithful hnamesakes ""
  obtain ⟨hown, hshared, -⟩ := hget "email"
  refine ⟨⟨hnamesakes, hne⟩, by decide, ?_, ?_, hmerge renamed, ?_⟩
  · rw [hown]
    rfl
  · rw [hshared]
    rfl
  · intro s hs
    exact ((hcommon "gitea" hne s).mp hs).2

end Groundwork.Settings
