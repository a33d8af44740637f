import Mathlib.Data.List.Nodup
import Groundwork.Proofs.Settings.Filling

/-!
# Settings and lists with a history

A list of settings `Arises` if it can be made by declaring settings and by what is done to settings
and lists afterwards, in any order and however often: putting values to them (which may be refused),
taking the values away, building and merging lists, and passing sources over them (which may fail).
Each operation keeps a list `Sound`, one lemma for each, so every list that arises is sound.  What
that means to a reader is `typed_of_arises`: no key occurs twice, a value always has the kind of its
setting, and a typed look-up fails by the kind of the setting that is found and by nothing else.
-/

namespace Groundwork

/-! ### What is done to a setting in its place -/

namespace Setting

/-- What can be done to a setting in its place. -/
inductive Change where
  /-- A default computed from the cluster is attached. -/
  | compute (default : DynamicDefault)
  /-- A value is put to the setting, which refuses it if it has another kind. -/
  | offer (value : Value) (byUser : Bool)
  /-- The value is taken away. -/
  | reset

/-- The setting after the change. -/
def change (s : Setting) : Change → Setting
  | .compute default => { s with dynamic := some default }
  | .offer value byUser =>
    match s.accept value byUser with
    | .ok s' => s'
    | .error _ => s
  | .reset => s.reset

variable {s : Setting}

/-- A change keeps the key and the kind of every value. -/
theorem change_cases (s : Setting) (c : Change) :
    (s.change c).key = s.key ∧ (s.IsTyped → (s.change c).IsTyped) := by
  cases c with
  | compute default => exact ⟨rfl, id⟩
  | offer v byUser =>
    rw [change]
    rcases haccept : s.accept v byUser with actual | s'
    · exact ⟨rfl, id⟩
    · obtain ⟨hv, rfl⟩ := accept_eq_ok.mp haccept
      refine ⟨rfl, fun _ w byUser' hgiven => ?_⟩
      cases hgiven
      exact hv
  | reset => exact ⟨rfl, fun _ => isTyped_of_pending rfl⟩

/-- Without a value there is only the zero value, and nobody gave it. -/
theorem value_of_not_isValid (h : s.isValid = false) :
    s.value = .zero s.kind ∧ s.isByUser = false := by
  have hpending : s.choice = .pending := by
    unfold isValid at h
    split at h
    · assumption
    · cases h
  rw [value, isByUser, hpending]
  exact ⟨rfl, rfl⟩

end Setting

/-! ### Histories -/

mutual

/-- The settings that can be made by declaring them and by what is done to settings and lists. -/
inductive Setting.Arises : Setting → Prop
  /-- A shared setting is declared; its kind is that of its default. -/
  | declare (name : String) (default : Value) : Setting.Arises { name, default }
  | describe {s : Setting} (h : s.Arises) (text : String) :
    Setting.Arises { s with description := text }
  | privateTo {s : Setting} (h : s.Arises) (unit : String) :
    Setting.Arises { s with scope := .unit unit }
  | change {s : Setting} (h : s.Arises) (c : Setting.Change) : (s.change c).Arises
  /-- A setting is taken out of a list, or looked up in it. -/
  | take {ss : Settings} {s : Setting} (h : ss.Arises) (hs : s ∈ ss.entries) : s.Arises

/-- The lists that can be made of such settings. -/
inductive Settings.Arises : Settings → Prop
  | empty : Settings.Arises ∅
  | insert {ss : Settings} {s : Setting} (h : ss.Arises) (hs : s.Arises) : (ss.insert s).Arises
  | ofList {added : List Setting} (h : ∀ s ∈ added, s.Arises) : (Settings.ofList added).Arises
  | merge {ss other : Settings} (h : ss.Arises) (hother : other.Arises) : (ss.merge other).Arises
  | clearShared {ss : Settings} (h : ss.Arises) : ss.clearShared.Arises
  | viewFor {ss : Settings} (h : ss.Arises) (unit : String) : (ss.viewFor unit).Arises
  /-- A setting of the list is changed in its place. -/
  | modify {ss : Settings} (h : ss.Arises) (name : String) (scope : Scope) (c : Setting.Change) :
    (ss.modify name scope fun s => s.change c).Arises
  /-- A source passes over the list, perhaps only up to an error. -/
  | populate {ss : Settings} (h : ss.Arises) (source : Source) :
    (ss.populate source).settings.Arises
  | resolve {ss : Settings} (h : ss.Arises) (chain : List Source) :
    (ss.resolve chain).settings.Arises

end

/-! ### What every operation keeps -/

namespace Settings

/-- Each key occurs once, and every value has the kind of its setting. -/
structure Sound (ss : Settings) : Prop where
  keyed : ss.Keyed
  typed : ∀ s ∈ ss.entries, s.IsTyped

variable {ss other : Settings} {s : Setting} {name : String} {scope : Scope}

theorem sound_empty : Sound ∅ :=
  ⟨keyed_empty, fun _ hs => nomatch hs⟩

theorem Sound.insertAll {added : List Setting} (h : ss.Sound) (hadded : ∀ s ∈ added, s.IsTyped) :
    (ss.insertAll added).Sound := by
  refine ⟨h.keyed.insertAll added, fun t ht => ?_⟩
  rcases mem_insertAll ht with ht | ht
  · exact hadded t ht
  · exact h.typed t ht

theorem Sound.insert (h : ss.Sound) (hs : s.IsTyped) : (ss.insert s).Sound := by
  have hadded : ∀ t ∈ [s], t.IsTyped := List.forall_mem_singleton.mpr hs
  exact h.insertAll hadded

theorem sound_ofList {added : List Setting} (h : ∀ s ∈ added, s.IsTyped) : (ofList added).Sound :=
  sound_empty.insertAll h

theorem Sound.merge (h : ss.Sound) (hother : other.Sound) : (ss.merge other).Sound :=
  h.insertAll hother.typed

theorem Sound.clearShared (h : ss.Sound) : ss.clearShared.Sound := by
  refine ⟨keyed_clearShared h.keyed, fun t ht => ?_⟩
  obtain ⟨s, hs, rfl⟩ := List.mem_map.mp ht
  split
  · exact Setting.isTyped_of_pending rfl
  · exact h.typed s hs

theorem Sound.viewFor (h : ss.Sound) (unit : String) : (ss.viewFor unit).Sound :=
  ⟨h.keyed.viewFor unit, fun s hs => h.typed s (List.mem_of_mem_filter hs)⟩

theorem map_key_modifyEntry {f : Setting → Setting} (hf : ∀ s, (f s).key = s.key)
    (entries : List Setting) :
    (modifyEntry name scope f entries).map Setting.key = entries.map Setting.key := by
  induction entries with
  | nil => rfl
  | cons s rest ih =>
    rw [modifyEntry]
    split
    · rw [List.map_cons, List.map_cons, hf]
    · rw [List.map_cons, List.map_cons, ih]

theorem mem_modifyEntry {f : Setting → Setting} {entries : List Setting}
    (h : s ∈ modifyEntry name scope f entries) : s ∈ entries ∨ ∃ t ∈ entries, s = f t := by
  induction entries with
  | nil => exact Or.inl h
  | cons first rest ih =>
    rw [modifyEntry] at h
    split at h
    · rcases List.mem_cons.mp h with rfl | hrest
      · exact Or.inr ⟨first, List.mem_cons_self .., rfl⟩
      · exact Or.inl (List.mem_cons_of_mem _ hrest)
    · rcases List.mem_cons.mp h with rfl | hrest
      · exact Or.inl (List.mem_cons_self ..)
      · rcases ih hrest with hs | ⟨t, ht, rfl⟩
        · exact Or.inl (List.mem_cons_of_mem _ hs)
        · exact Or.inr ⟨t, List.mem_cons_of_mem _ ht, rfl⟩

theorem Sound.modify (h : ss.Sound) (c : Setting.Change) :
    (ss.modify name scope fun s => s.change c).Sound := by
  constructor
  · rw [Keyed, Settings.modify, map_key_modifyEntry fun s => (s.change_cases c).1]
    exact h.keyed
  · intro s hs
    rcases mem_modifyEntry hs with hs | ⟨t, ht, rfl⟩
    · exact h.typed s hs
    · exact (t.change_cases c).2 (h.typed t ht)

theorem map_key_of_fills {entries entries' : List Setting}
    (h : List.Forall₂ Setting.Fills entries entries') :
    entries'.map Setting.key = entries.map Setting.key := by
  have hkey : Setting.key = Setting.key ∘ Setting.reset := rfl
  rw [hkey, ← List.map_map, map_reset_of_fills h, List.map_map]

/-- Sources only fill, and what fills a setting has its kind. -/
theorem Sound.of_fills (h : ss.Sound)
    (hfills : List.Forall₂ Setting.Fills ss.entries other.entries) : other.Sound := by
  refine ⟨?_, isTyped_of_fills hfills h.typed⟩
  rw [Keyed, map_key_of_fills hfills]
  exact h.keyed

end Settings

open Setting Settings

mutual

theorem Setting.Arises.isTyped {s : Setting} (h : s.Arises) : s.IsTyped :=
  match h with
  | .declare .. => isTyped_of_pending rfl
  | .describe h _ => h.isTyped
  | .privateTo h _ => h.isTyped
  | .change h c => (change_cases _ c).2 h.isTyped
  | .take h hs => h.sound.typed _ hs

theorem Settings.Arises.sound {ss : Settings} (h : ss.Arises) : ss.Sound :=
  match h with
  | .empty => sound_empty
  | .insert h hs => h.sound.insert hs.isTyped
  | .ofList h => sound_ofList fun s hs => (h s hs).isTyped
  | .merge h hother => h.sound.merge hother.sound
  | .clearShared h => h.sound.clearShared
  | .viewFor h unit => h.sound.viewFor unit
  | .modify h _ _ c => h.sound.modify c
  | .populate h source => h.sound.of_fills (populate_fills _ source)
  | .resolve h chain => h.sound.of_fills (resolve_fills _ chain)

end

/-! ### Reading a list -/

namespace Settings

variable {ss : Settings} {s : Setting} {name : String} {unit : Option String} {expected : Kind}

/-- A look-up for values of a kind fails where nothing is found and where the setting that is found
has another kind, and nowhere else. -/
def FailsByKind {α : Type} (ss : Settings) (expected : Kind)
    (look : String → Option String → Except SetupError α) : Prop :=
  ∀ name unit e, look name unit = .error e ↔
    ss.get? name unit = none ∧ e = .unknown name ∨
      ∃ s, ss.get? name unit = some s ∧ s.kind ≠ expected ∧
        e = .wrongKind s.name expected s.kind

theorem mem_of_get? (h : ss.get? name unit = some s) : s ∈ ss.entries := by
  rw [get?_eq, Option.or_eq_some_iff] at h
  rcases h with hown | ⟨-, hshared⟩
  · obtain ⟨id, -, hfound⟩ := Option.bind_eq_some_iff.mp hown
    exact (find?_eq_some hfound).1
  · exact (find?_eq_some hshared).1

/-- In a sound list a typed look-up never fails on account of a value. -/
theorem Sound.failsByKind {α : Type} {view : Value → Option α} (h : ss.Sound)
    (hview : ∀ v, (view v).isSome = true ↔ v.kind = expected) :
    ss.FailsByKind expected fun name unit => ss.typed name unit expected view := by
  intro name unit e
  simp only [Settings.typed, require]
  rcases hget : ss.get? name unit with _ | s
  · simp [eq_comm]
  · have hkind : s.value.kind = s.kind := Setting.kind_value (h.typed s (mem_of_get? hget))
    have hsome := hview s.value
    rw [hkind] at hsome
    rcases hread : view s.value with _ | a
    · -- the value cannot be read, so the kind is another one
      rw [hread] at hsome
      have hne : s.kind ≠ expected := fun heq => Bool.false_ne_true (hsome.mpr heq)
      simp [hread, hne.symm, eq_comm]
    · rw [hread] at hsome
      have heq : s.kind = expected := hsome.mp rfl
      simp [hread, heq]

/-- In every list that arises no key occurs twice, values and defaults have the kind of their
setting, and a setting without a value holds the zero value of its kind, given by nobody.  So the
typed look-ups fail by the kind of what is found, never by its value. -/
theorem typed_of_arises (h : ss.Arises) :
    ss.entries.Pairwise (fun s t => ¬(s.name = t.name ∧ s.scope = t.scope)) ∧
      (∀ s ∈ ss.entries, s.value.kind = s.kind ∧ s.default.kind = s.kind ∧
        (s.isValid = false → s.value = .zero s.kind ∧ s.isByUser = false)) ∧
      ss.FailsByKind .boolean ss.getBool ∧ ss.FailsByKind .string ss.getString ∧
      ss.FailsByKind .integer ss.getInt := by
  have hsound := h.sound
  refine ⟨?_, ?_, ?_, ?_, ?_⟩
  · have hkeys : ss.entries.Pairwise fun s t => s.key ≠ t.key := List.pairwise_map.mp hsound.keyed
    refine hkeys.imp fun {s t} hne hsame => ?_
    exact hne (Prod.ext hsame.1 hsame.2)
  · intro s hs
    exact ⟨Setting.kind_value (hsound.typed s hs), rfl, Setting.value_of_not_isValid⟩
  · exact hsound.failsByKind Value.isSome_asBool?_iff
  · exact hsound.failsByKind Value.isSome_asString?_iff
  · exact hsound.failsByKind Value.isSome_asInt?_iff

/-- A text that all share and a number of one unit, under one name.  The number refuses a text, and
the command line breaks off at it after the shared text was read. -/
def crossedReplicas : Settings :=
  ((ofList [{ name := "replicas", default := .string "few" },
      Setting.change { name := "replicas", scope := .unit "gitea", default := .int 1 }
        (.offer (.string "three") true)]).resolve
    [.flags ⟨[("replicas", "many")]⟩, .defaults]).settings

theorem typed_of_arises_crossed :
    crossedReplicas.Arises ∧
      crossedReplicas.getInt "replicas" none = .error (.wrongKind "replicas" .integer .string) ∧
      ∀ e, crossedReplicas.getInt "replicas" (some "gitea") ≠ .error e := by
  have harises : crossedReplicas.Arises := by
    refine .resolve (.ofList ?_) _
    rw [List.forall_mem_cons, List.forall_mem_singleton]
    exact ⟨.declare _ _, .change (.privateTo (.declare "replicas" (.int 1)) "gitea") _⟩
  obtain ⟨-, -, -, -, hfails⟩ := typed_of_arises harises
  refine ⟨harises, (hfails _ _ _).mpr (Or.inr ⟨_, rfl, by decide, rfl⟩), fun e he => ?_⟩
  -- the unit means its own number, which has no value and still can be read
  rcases (hfails _ _ _).mp he with ⟨hnone, -⟩ | ⟨s, hfound, hkind, -⟩
  · cases hnone
  · obtain rfl := Option.some.inj hfound
    exact hkind rfl

end Settings

end Groundwork
