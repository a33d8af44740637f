import Groundwork.Proofs.Settings.Dialogue

/-!
# What resolving leaves alone

A source looks only at the settings without a value: after its turn it is as if it had been given no
others (`populate_pending`), so nothing is read or shown on account of the rest.  In a chain that
holds for each source, with the settings as they are when its turn comes (`resolve_append_of_none`).
`resolve_persists` puts this together with what becomes of the settings: whatever the sources are,
and also if the chain fails, all that was declared stays, and so does every value that was given.  A
chain that ends with the check for what is missing leaves nothing to do for any other chain.
-/

namespace Groundwork

/-! ### One setting -/

namespace Setting

/-- What stays of a setting: everything that was declared, and the choice if there was one. -/
structure Kept (s s' : Setting) : Prop where
  name : s'.name = s.name
  description : s'.description = s.description
  scope : s'.scope = s.scope
  kind : s'.kind = s.kind
  default : s'.default = s.default
  dynamic : s'.dynamic = s.dynamic
  isValid : s.isValid = true → s'.isValid = true
  value : s.isValid = true → s'.value = s.value
  isByUser : s.isValid = true → s'.isByUser = s.isByUser

theorem Fills.kept {s s' : Setting} (h : s.Fills s') : s.Kept s' := by
  rcases h with rfl | ⟨hs, v, byUser, -, rfl⟩
  · exact ⟨rfl, rfl, rfl, rfl, rfl, rfl, id, fun _ => rfl, fun _ => rfl⟩
  · have hnot : ¬s.isValid = true := Bool.eq_false_iff.mp hs
    exact ⟨rfl, rfl, rfl, rfl, rfl, rfl, fun _ => rfl, fun h => absurd h hnot,
      fun h => absurd h hnot⟩

end Setting

namespace Settings

variable {ss : Settings} {source : Source} {before after : List Source}

/-! ### One pass -/

/-- The source after a pass and the error are those of a pass over the settings without a value. -/
theorem populateEntries_pending (source : Source) (entries : List Setting) :
    (populateEntries source entries).2 = (populateEntries source (pending ⟨entries⟩)).2 := by
  induction entries generalizing source with
  | nil => rfl
  | cons s rest ih =>
    by_cases hs : s.isValid = true
    · have hpending : pending ⟨s :: rest⟩ = pending ⟨rest⟩ := by
        simp [pending, hs]
      rw [hpending, ← ih, populateEntries, source.fill_of_isValid hs]
    · have hpending : pending ⟨s :: rest⟩ = s :: pending ⟨rest⟩ := by
        simp [pending, hs]
      rw [hpending, populateEntries, populateEntries]
      rcases source.fill s with ⟨e | s', source'⟩
      · rfl
      · exact ih source'

theorem populate_pending (ss : Settings) (source : Source) :
    (ss.populate source).sources = (populate ⟨ss.pending⟩ source).sources ∧
      (ss.populate source).error = (populate ⟨ss.pending⟩ source).error := by
  have h := populateEntries_pending source ss.entries
  exact ⟨congrArg Prod.fst h, congrArg Prod.snd h⟩

/-- The check for what is missing passes only if nothing is. -/
theorem isValid_of_populate_completeness (h : (ss.populate .completeness).error = none) :
    ∀ s ∈ ss.entries, s.isValid = true := by
  obtain ⟨entries⟩ := ss
  replace h : (populateEntries .completeness entries).2.2 = none := h
  induction entries with
  | nil => exact fun s hs => nomatch hs
  | cons s rest ih =>
    rw [populateEntries] at h
    by_cases hs : s.isValid = true
    · rw [Source.fill_of_isValid _ hs] at h
      intro t ht
      rcases List.mem_cons.mp ht with rfl | ht
      · exact hs
      · exact ih h t ht
    · rw [Source.fill, if_neg hs] at h
      cases h

/-! ### A chain -/

/-- Behind a chain that succeeds, a chain goes on with what the first one made of the settings. -/
theorem resolve_append_of_none (h : (ss.resolve before).error = none) :
    ss.resolve (before ++ after) =
      ⟨((ss.resolve before).settings.resolve after).settings,
        (ss.resolve before).sources ++ ((ss.resolve before).settings.resolve after).sources,
        ((ss.resolve before).settings.resolve after).error⟩ := by
  induction before generalizing ss with
  | nil => rfl
  | cons source rest ih =>
    rw [List.cons_append, resolve, resolve]
    rw [resolve] at h
    rcases herror : (ss.populate source).error with _ | e
    · rw [herror] at h
      simp only [ih h, List.cons_append]
    · rw [herror] at h
      cases h

/-- Behind a chain that fails, the turn of no other source comes. -/
theorem resolve_append_of_some {e : SetupError} (h : (ss.resolve before).error = some e) :
    ss.resolve (before ++ after) =
      ⟨(ss.resolve before).settings, (ss.resolve before).sources ++ after, some e⟩ := by
  induction before generalizing ss with
  | nil => cases h
  | cons source rest ih =>
    rw [List.cons_append, resolve, resolve]
    rw [resolve] at h
    rcases herror : (ss.populate source).error with _ | e'
    · rw [herror] at h
      simp only [ih h, List.cons_append]
    · rw [herror] at h
      obtain rfl : e' = e := Option.some.inj h
      rfl

theorem length_sources_resolve (ss : Settings) (chain : List Source) :
    (ss.resolve chain).sources.length = chain.length := by
  induction chain generalizing ss with
  | nil => rfl
  | cons source rest ih =>
    rw [resolve]
    split
    · rfl
    · rw [List.length_cons, ih, List.length_cons]

/-- A source whose turn comes is given the settings without a value, and only those. -/
theorem sources_resolve_of_none (h : (ss.resolve before).error = none) :
    (ss.resolve (before ++ source :: after)).sources[before.length]? =
      some (populate ⟨(ss.resolve before).settings.pending⟩ source).sources := by
  rw [resolve_append_of_none h, ← length_sources_resolve ss before,
    List.getElem?_append_right (Nat.le_refl _), Nat.sub_self, ← (populate_pending _ source).1,
    resolve]
  split <;> rfl

/-- A source whose turn does not come stays as it is. -/
theorem sources_resolve_of_some {e : SetupError} (h : (ss.resolve before).error = some e) :
    (ss.resolve (before ++ source :: after)).sources[before.length]? = some source := by
  rw [resolve_append_of_some h, ← length_sources_resolve ss before,
    List.getElem?_append_right (Nat.le_refl _), Nat.sub_self]
  rfl

/-- Where every setting has a value, no chain has anything to do. -/
theorem resolve_of_isValid (h : ∀ s ∈ ss.entries, s.isValid = true) (chain : List Source) :
    ss.resolve chain = ⟨ss, chain, none⟩ := by
  induction chain with
  | nil => rfl
  | cons source rest ih => rw [resolve_cons_of_none (populate_of_isValid source h), ih]

/-- After a chain that ends with the check for what is missing, every setting has a value. -/
theorem isValid_of_resolve_completeness
    (h : (ss.resolve (before ++ [.completeness])).error = none) :
    ∀ s ∈ (ss.resolve (before ++ [.completeness])).settings.entries, s.isValid = true := by
  rcases hbefore : (ss.resolve before).error with _ | e
  · rw [resolve_append_of_none hbefore] at h ⊢
    generalize (ss.resolve before).settings = reached at h ⊢
    rw [resolve] at h ⊢
    rcases hcheck : (reached.populate .completeness).error with _ | e
    · have hvalid := isValid_of_populate_completeness hcheck
      rw [populate_of_isValid .completeness hvalid]
      exact hvalid
    · rw [hcheck] at h
      cases h
  · rw [resolve_append_of_some hbefore] at h
    cases h

/-- Whatever the sources of a chain are, and whether it succeeds or fails, each setting keeps its
place, what was declared of it, and its value if it had one.  Each source is afterwards as if it had
been given only the settings without a value when its turn came, if it came, so it neither reads nor
shows anything for the others.  Once a chain that ends with the check for what is missing has
succeeded, every chain succeeds, and it changes neither the settings nor its sources. -/
theorem resolve_persists (ss : Settings) (chain : List Source) :
    List.Forall₂ Setting.Kept ss.entries (ss.resolve chain).settings.entries ∧
      (∀ before source after, chain = before ++ source :: after →
        (ss.resolve chain).sources[before.length]? =
          if (ss.resolve before).error = none then
            some (populate ⟨(ss.resolve before).settings.pending⟩ source).sources
          else some source) ∧
      ∀ before, chain = before ++ [.completeness] → (ss.resolve chain).error = none →
        ∀ again, (ss.resolve chain).settings.resolve again =
          ⟨(ss.resolve chain).settings, again, none⟩ := by
  refine ⟨(ss.resolve_fills chain).imp fun _ _ h => h.kept, ?_, ?_⟩
  · rintro before source after rfl
    rcases hbefore : (ss.resolve before).error with _ | e
    · rw [if_pos rfl]
      exact sources_resolve_of_none hbefore
    · rw [if_neg (Option.some_ne_none e)]
      exact sources_resolve_of_some hbefore
  · rintro before rfl hsuccess again
    exact resolve_of_isValid (isValid_of_resolve_completeness hsuccess) again

/-- A dialogue with two lines of blanks, and a command line that comes too late. -/
def latecomers : List Source :=
  [.dialogue twoBlanks none, .flags (domainGiven "late.org")]

theorem resolve_persists_office :
    (office.resolve (unattended threeReplicas reachableNode)).error = none ∧
      (office.resolve (unattended threeReplicas reachableNode)).settings.resolve latecomers =
        ⟨(office.resolve (unattended threeReplicas reachableNode)).settings, latecomers, none⟩ ∧
      (office.resolve [.defaults, .dialogue twoBlanks none]).sources[1]? =
        some (.dialogue twoBlanks none) := by
  have hsuccess : (office.resolve (unattended threeReplicas reachableNode)).error = none := rfl
  obtain ⟨-, -, hagain⟩ := resolve_persists office (unattended threeReplicas reachableNode)
  have hlast : unattended threeReplicas reachableNode =
      [.flags threeReplicas, .dynamic reachableNode, .defaults] ++ [.completeness] := rfl
  refine ⟨hsuccess, hagain _ hlast hsuccess latecomers, ?_⟩
  -- the fixed defaults leave nothing to ask
  obtain ⟨-, hturn, -⟩ := resolve_persists office [.defaults, .dialogue twoBlanks none]
  exact hturn [.defaults] (.dialogue twoBlanks none) [] rfl

end Settings

end Groundwork
