import Mathlib.Data.List.Forall2
import Groundwork.Proofs.Console
import Groundwork.Proofs.Settings.Keys
import Groundwork.Proofs.Traversal
import Groundwork.Proofs.Value
import Groundwork.Resolution

/-!
# What filling does to a setting

`Setting.Fills s s'` says what a source can make of a setting: it leaves it as it is, or it gives a
value of its kind to one that has none.  Every source does one or the other (`Source.fills`), so a
pass over a list does it to each setting (`Settings.populate_fills`), and so does a chain of passes
(`Settings.resolve_fills`), also when they break off with an error.  So what is found under a name
keeps its kind, and what is read as a truth value depends on that kind alone (`getBool_of_boolean`,
`getBool_of_not_boolean`).
-/

namespace Groundwork

/-! ### One setting -/

namespace Setting

/-- What a source can make of a setting: nothing, or one with a value of the right kind. -/
def Fills (s s' : Setting) : Prop :=
  s' = s ∨ s.isValid = false ∧
    ∃ v byUser, v.kind = s.kind ∧ s' = { s with choice := .given v byUser }

/-- A value that was given has the kind of the setting. -/
def IsTyped (s : Setting) : Prop :=
  ∀ v byUser, s.choice = .given v byUser → v.kind = s.kind

variable {s s' s'' : Setting} {facts : Facts} {v : Value}

theorem Fills.refl (s : Setting) : s.Fills s :=
  Or.inl rfl

theorem Fills.given {byUser : Bool} (hs : s.isValid = false) (hv : v.kind = s.kind) :
    s.Fills { s with choice := .given v byUser } :=
  Or.inr ⟨hs, v, byUser, hv, rfl⟩

theorem Fills.trans (h : s.Fills s') (h' : s'.Fills s'') : s.Fills s'' := by
  rcases h with rfl | ⟨hs, v, byUser, hv, rfl⟩
  · exact h'
  · -- a value was given, so nothing more happens
    rcases h' with rfl | ⟨hvalid, -⟩
    · exact Or.inr ⟨hs, v, byUser, hv, rfl⟩
    · cases hvalid

/-- Only the choice can change. -/
theorem Fills.reset (h : s.Fills s') : s'.reset = s.reset := by
  rcases h with rfl | ⟨-, v, byUser, -, rfl⟩ <;> rfl

theorem Fills.isTyped (h : s.Fills s') (hs : s.IsTyped) : s'.IsTyped := by
  rcases h with rfl | ⟨-, v, byUser, hv, rfl⟩
  · exact hs
  · intro w byUser' hgiven
    cases hgiven
    exact hv

theorem kind_value (h : s.IsTyped) : s.value.kind = s.kind := by
  unfold value
  split
  · exact Value.kind_zero s.kind
  · rename_i hchoice
    exact h _ _ hchoice

theorem isTyped_of_pending (h : s.choice = .pending) : s.IsTyped := by
  intro v byUser hgiven
  rw [h] at hgiven
  cases hgiven

/-- A setting accepts just the values of its kind. -/
theorem accept_eq_ok {byUser : Bool} :
    s.accept v byUser = .ok s' ↔ v.kind = s.kind ∧ s' = { s with choice := .given v byUser } := by
  by_cases hv : v.kind = s.kind
  · simp [accept, hv, eq_comm]
  · simp [accept, hv]

theorem kind_of_dynamicValue? (h : s.dynamicValue? facts = some v) : v.kind = s.kind := by
  unfold dynamicValue? at h
  split at h
  · cases h
  split at h
  · split at h
    · rename_i hv
      cases h
      exact hv.1
    · cases h
  · cases h
  · cases h

end Setting

namespace Source

variable {s s' : Setting} {v : Value} {byUser : Bool}

theorem give_eq_ok :
    give s v byUser = .ok s' ↔ v.kind = s.kind ∧ s' = { s with choice := .given v byUser } := by
  rw [← Setting.accept_eq_ok, give]
  cases s.accept v byUser with
  | ok accepted => simp
  | error actual => simp

theorem fill_of_isValid (source : Source) (h : s.isValid = true) :
    source.fill s = (.ok s, source) := by
  unfold fill
  rw [if_pos h]

/-- What is suggested has the kind that is asked for. -/
theorem kind_suggestion (facts : Option Facts) (s : Setting) :
    (suggestion facts s).kind = s.kind := by
  unfold suggestion
  rcases hcomputed : facts.bind s.dynamicValue? with _ | v
  · rfl
  · obtain ⟨f, -, hv⟩ := Option.bind_eq_some_iff.mp hcomputed
    exact Setting.kind_of_dynamicValue? hv

/-- An answer to a question about a setting has the kind of the setting. -/
theorem kind_of_ask {facts : Option Facts} {console : Console}
    (h : ((question facts s).ask console).1 = .ok v) : v.kind = s.kind := by
  rcases Question.of_fst_ask_eq_ok h with hend | rfl | ⟨answer, hanswer⟩
  · cases hend
  · exact kind_suggestion facts s
  · exact Value.kind_parse hanswer

theorem fills_of_give (hs : s.isValid = false) (h : give s v byUser = .ok s') : s.Fills s' := by
  obtain ⟨hv, rfl⟩ := give_eq_ok.mp h
  exact .given hs hv

/-- A source that does not fail fills the setting. -/
theorem fills (source : Source) (h : (source.fill s).1 = .ok s') : s.Fills s' := by
  by_cases hs : s.isValid = true
  · rw [source.fill_of_isValid hs] at h
    cases h
    exact .refl s
  rw [Bool.not_eq_true] at hs
  unfold fill at h
  rw [if_neg (Bool.eq_false_iff.mp hs)] at h
  cases source with
  | flags flags =>
    simp only [fillFromFlags] at h
    split at h
    · cases h
      exact .refl s
    split at h
    · cases h
    split at h
    · cases h
      exact .refl s
    · exact fills_of_give hs h
  | dynamic facts =>
    simp only [fillFromFacts] at h
    split at h
    · cases h
      exact .refl s
    · exact fills_of_give hs h
  | defaults => exact fills_of_give hs h
  | completeness => cases h
  | dialogue console facts =>
    simp only [fillFromDialogue] at h
    split at h
    · cases h
    · exact fills_of_give hs h

end Source

/-! ### Passes -/

namespace Settings

section Populate

variable {source source' : Source} {s s' : Setting} {pre rest : List Setting} {e : SetupError}

theorem populate_cons_of_ok (h : source.fill s = (.ok s', source')) :
    populate ⟨s :: rest⟩ source =
      ⟨⟨s' :: (populate ⟨rest⟩ source').settings.entries⟩, (populate ⟨rest⟩ source').sources,
        (populate ⟨rest⟩ source').error⟩ := by
  rw [populate, populateEntries, h]
  rfl

theorem populate_cons_of_error (h : source.fill s = (.error e, source')) :
    populate ⟨s :: rest⟩ source = ⟨⟨s :: rest⟩, source', some e⟩ := by
  rw [populate, populateEntries, h]

/-- Behind settings over which it succeeds, a pass goes on with what they made of the source. -/
theorem populate_append_of_none (h : (populate ⟨pre⟩ source).error = none) :
    populate ⟨pre ++ rest⟩ source =
      ⟨⟨(populate ⟨pre⟩ source).settings.entries ++
          (populate ⟨rest⟩ (populate ⟨pre⟩ source).sources).settings.entries⟩,
        (populate ⟨rest⟩ (populate ⟨pre⟩ source).sources).sources,
        (populate ⟨rest⟩ (populate ⟨pre⟩ source).sources).error⟩ := by
  induction pre generalizing source with
  | nil => rfl
  | cons s pre ih =>
    rcases hfill : source.fill s with ⟨e | s', source'⟩
    · rw [populate_cons_of_error hfill] at h
      cases h
    · rw [populate_cons_of_ok hfill] at h ⊢
      rw [List.cons_append, populate_cons_of_ok hfill, ih h]
      rfl

end Populate

/-- A pass fills the settings one by one; those after an error stay as they are. -/
theorem populateEntries_fills (source : Source) (entries : List Setting) :
    List.Forall₂ Setting.Fills entries (populateEntries source entries).1 := by
  induction entries generalizing source with
  | nil => exact .nil
  | cons s rest ih =>
    rw [populateEntries]
    rcases hfill : source.fill s with ⟨e | s', source'⟩
    · exact .cons (.refl s) (List.forall₂_same.mpr fun t _ => .refl t)
    · exact .cons (source.fills (by rw [hfill])) (ih source')

theorem populate_fills (ss : Settings) (source : Source) :
    List.Forall₂ Setting.Fills ss.entries (ss.populate source).settings.entries :=
  populateEntries_fills source ss.entries

theorem forall₂_fills_trans {entries entries' entries'' : List Setting}
    (h : List.Forall₂ Setting.Fills entries entries')
    (h' : List.Forall₂ Setting.Fills entries' entries'') :
    List.Forall₂ Setting.Fills entries entries'' := by
  induction h generalizing entries'' with
  | nil => exact h'
  | cons hs _ ih =>
    cases h' with
    | cons hs' hrest => exact .cons (hs.trans hs') (ih hrest)

/-- So does a chain of passes. -/
theorem resolve_fills (ss : Settings) (chain : List Source) :
    List.Forall₂ Setting.Fills ss.entries (ss.resolve chain).settings.entries := by
  induction chain generalizing ss with
  | nil => exact List.forall₂_same.mpr fun s _ => .refl s
  | cons source rest ih =>
    have hfirst := ss.populate_fills source
    rw [resolve]
    split
    · exact hfirst
    · exact forall₂_fills_trans hfirst (ih _)

theorem map_reset_of_fills {entries entries' : List Setting}
    (h : List.Forall₂ Setting.Fills entries entries') :
    entries'.map Setting.reset = entries.map Setting.reset := by
  induction h with
  | nil => rfl
  | cons hs _ ih => rw [List.map_cons, List.map_cons, hs.reset, ih]

theorem isTyped_of_fills {entries entries' : List Setting}
    (h : List.Forall₂ Setting.Fills entries entries') (htyped : ∀ s ∈ entries, s.IsTyped) :
    ∀ s ∈ entries', s.IsTyped := by
  intro s' hs'
  obtain ⟨s, hs, hfills⟩ := exists_of_mem_right h hs'
  exact hfills.isTyped (htyped s hs)

/-- Filling changes neither under what key a setting is found nor its kind. -/
theorem map_kind_find?_of_fills {ss ss' : Settings}
    (h : List.Forall₂ Setting.Fills ss.entries ss'.entries) (name : String) (scope : Scope) :
    (ss'.find? name scope).map Setting.kind = (ss.find? name scope).map Setting.kind := by
  symm
  apply map_find?_of_forall₂ h
  intro s s' hfills
  have hreset := hfills.reset
  have hname : s'.name = s.name := by
    show s'.reset.name = s.reset.name
    rw [hreset]
  have hscope : s'.scope = s.scope := by
    show s'.reset.scope = s.reset.scope
    rw [hreset]
  have hkind : s'.kind = s.kind := by
    show s'.reset.kind = s.reset.kind
    rw [hreset]
  rw [hname, hscope, hkind]
  exact ⟨rfl, rfl⟩

/-! ### Reading truth values -/

variable {ss : Settings} {s : Setting} {name : String} {unit : Option String}

theorem getBool_of_boolean (hget : ss.get? name unit = some s) (hs : s.IsTyped)
    (hkind : s.kind = .boolean) : ∃ b, ss.getBool name unit = .ok b := by
  obtain ⟨b, hb⟩ := Value.exists_asBool? ((Setting.kind_value hs).trans hkind)
  refine ⟨b, ?_⟩
  simp only [getBool, typed, require, hget, hb]

theorem getBool_of_not_boolean (hget : ss.get? name unit = some s) (hs : s.IsTyped)
    (hkind : s.kind ≠ .boolean) :
    ss.getBool name unit = .error (.wrongKind s.name .boolean s.kind) := by
  have hnone : s.value.asBool? = none :=
    Value.asBool?_eq_none ((Setting.kind_value hs).symm ▸ hkind)
  simp only [getBool, typed, require, hget, hnone]

end Settings

end Groundwork
