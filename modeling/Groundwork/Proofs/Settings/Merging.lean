import Mathlib.Data.List.Basic
import Groundwork.Proofs.Settings.Keys

/-!
# The laws of merging

A keyed list is known by its keys in their order and by what is found under them (`Keyed.ext`).  A
merge has the keys of the first list and after them those that only the second list has
(`map_key_merge`), and under each key what the second list has there, or else the first
(`find?_merge`).  That is all there is to it (`isUnion_iff`), so the laws of merging are those of
putting keys behind others and of preferring one answer to another.
-/

namespace Groundwork.Settings

variable {a b c m : Settings} {s : Setting} {name : String} {scope : Scope}

/-! ### What a list is known by -/

/-- In a keyed list every setting stands where its key stands. -/
theorem Keyed.map_find?_key (h : a.Keyed) :
    (a.entries.map Setting.key).map (fun key => a.find? key.1 key.2) = a.entries.map some := by
  rw [List.map_map]
  exact List.map_congr_left fun s hs => h.find?_of_mem hs

/-- Keyed lists with the same keys in the same order, under which the same is found, are equal. -/
theorem Keyed.ext (ha : a.Keyed) (hb : b.Keyed)
    (hkeys : a.entries.map Setting.key = b.entries.map Setting.key)
    (hfind : ∀ name scope, a.find? name scope = b.find? name scope) : a = b := by
  have hsome : a.entries.map some = b.entries.map some := by
    rw [← ha.map_find?_key, ← hb.map_find?_key, hkeys]
    exact List.map_congr_left fun key _ => hfind key.1 key.2
  exact congrArg Settings.mk (List.map_injective_iff.mpr (fun _ _ => Option.some.inj) hsome)

/-- A change that keeps the key is seen under that key, and nowhere else. -/
theorem find?_modify {f : Setting → Setting} (hf : ∀ s, (f s).key = s.key) (a : Settings)
    (name : String) (scope : Scope) :
    (a.modify name scope f).find? name scope = (a.find? name scope).map f := by
  obtain ⟨entries⟩ := a
  simp only [modify, find?]
  induction entries with
  | nil => rfl
  | cons s rest ih =>
    rw [modifyEntry]
    by_cases hs : s.name = name ∧ s.scope = scope
    · obtain ⟨hname, hscope⟩ := Prod.mk.inj (hf s)
      simp [hs, hname, hscope]
    · have hfalse : (s.name = name && s.scope = scope : Bool) = false := by simpa using hs
      rw [if_neg hs, List.find?_cons, List.find?_cons, hfalse, ih]

/-! ### Merging -/

theorem map_key_insertAll {added : List Setting} (h : (added.map Setting.key).Nodup)
    (a : Settings) :
    (a.insertAll added).entries.map Setting.key =
      a.entries.map Setting.key ++
        (added.map Setting.key).filter fun key => key ∉ a.entries.map Setting.key := by
  induction added generalizing a with
  | nil => exact (List.append_nil _).symm
  | cons s rest ih =>
    obtain ⟨hfresh, hrest⟩ := List.nodup_cons.mp h
    show ((a.insert s).insertAll rest).entries.map Setting.key = _
    rw [ih hrest, insert, map_key_insertEntry, List.map_cons]
    by_cases hmem : s.key ∈ a.entries.map Setting.key
    · rw [if_pos hmem, List.filter_cons_of_neg (by simpa using hmem)]
    · rw [if_neg hmem, List.filter_cons_of_pos (by simpa using hmem), List.append_assoc,
        List.singleton_append]
      congr 2
      -- the key of `s` is none of those that come after it
      apply List.filter_congr
      intro key hkey
      have hne : key ≠ s.key := fun heq => hfresh (heq ▸ hkey)
      simp only [List.mem_append, List.mem_singleton, hne, or_false]

/-- A merge keeps the keys of the first list and puts those behind them that only the second list
has. -/
theorem map_key_merge (hb : b.Keyed) (a : Settings) :
    (a.merge b).entries.map Setting.key =
      a.entries.map Setting.key ++
        (b.entries.map Setting.key).filter fun key => key ∉ a.entries.map Setting.key :=
  map_key_insertAll hb a

theorem get?_merge (hb : b.Keyed) (a : Settings) (name : String) (unit : Option String) :
    (a.merge b).get? name unit =
      (unit.bind fun id => (b.find? name (.unit id)).or (a.find? name (.unit id))).or
        ((b.find? name .shared).or (a.find? name .shared)) := by
  simp only [get?_eq, find?_merge a hb]

/-- `m` is the union of the two lists in which the second one wins: each key once, those of the
first list before the others of the second, and under each key what the second list has there, or
else the first. -/
structure IsUnion (a b m : Settings) : Prop where
  keyed : m.Keyed
  keys : m.entries.map Setting.key =
    a.entries.map Setting.key ++
      (b.entries.map Setting.key).filter fun key => key ∉ a.entries.map Setting.key
  find : ∀ name scope, m.find? name scope = (b.find? name scope).or (a.find? name scope)

theorem isUnion_merge (ha : a.Keyed) (hb : b.Keyed) : IsUnion a b (a.merge b) :=
  ⟨ha.insertAll _, map_key_merge hb a, find?_merge a hb⟩

/-- There is one union, which is the merge. -/
theorem isUnion_iff (ha : a.Keyed) (hb : b.Keyed) : IsUnion a b m ↔ m = a.merge b := by
  have hmerge := isUnion_merge ha hb
  constructor
  · intro h
    apply h.keyed.ext hmerge.keyed
    · rw [h.keys, hmerge.keys]
    · intro name scope
      rw [h.find, hmerge.find]
  · rintro rfl
    exact hmerge

theorem IsUnion.mem_key {key : String × Scope} (h : IsUnion a b m) :
    key ∈ m.entries.map Setting.key ↔
      key ∈ a.entries.map Setting.key ∨ key ∈ b.entries.map Setting.key := by
  rw [h.keys, List.mem_append, List.mem_filter, decide_eq_true_eq]
  by_cases hkey : key ∈ a.entries.map Setting.key
  · simp only [hkey, true_or]
  · simp only [hkey, false_or, not_false_eq_true, and_true]

theorem merge_assoc (ha : a.Keyed) (hb : b.Keyed) (hc : c.Keyed) :
    (a.merge b).merge c = a.merge (b.merge c) := by
  have hab := isUnion_merge ha hb
  have hbc := isUnion_merge hb hc
  have hall := isUnion_merge ha hbc.keyed
  symm
  rw [← isUnion_iff hab.keyed hc]
  refine ⟨hall.keyed, ?_, ?_⟩
  · -- what neither of the first two lists has is what their union does not have
    have hnew (key : String × Scope) :
        (decide (key ∉ a.entries.map Setting.key) && decide (key ∉ b.entries.map Setting.key)) =
          decide (key ∉ (a.merge b).entries.map Setting.key) := by
      rw [Bool.eq_iff_iff]
      simp only [hab.mem_key, Bool.and_eq_true, decide_eq_true_eq, not_or]
    rw [hall.keys, hbc.keys, List.filter_append, List.filter_filter, ← List.append_assoc,
      ← hab.keys]
    simp only [hnew]
  · intro name scope
    rw [hall.find, hab.find, hbc.find, Option.or_assoc]

theorem empty_merge (ha : a.Keyed) : merge ∅ a = a := by
  symm
  rw [← isUnion_iff keyed_empty ha]
  refine ⟨ha, (List.filter_true _).symm, ?_⟩
  intro name scope
  exact Option.or_none.symm

theorem merge_self (ha : a.Keyed) : a.merge a = a := by
  symm
  rw [← isUnion_iff ha ha]
  refine ⟨ha, ?_, ?_⟩
  · have hnone :
        (a.entries.map Setting.key).filter (fun key => key ∉ a.entries.map Setting.key) = [] := by
      rw [List.filter_eq_nil_iff]
      intro key hkey
      simpa using hkey
    rw [hnone, List.append_nil]
  · intro name scope
    rw [Option.or_self]

/-- Merging is an ordered union in which the second list wins.  It is associative, the empty list
changes nothing on either side, and neither does a list merged with itself.  To build a list is to
merge its settings one by one.  A look-up for a unit, and a change in place, reach what the second
list has under the key, or else what the first has. -/
theorem merge_laws (ha : a.Keyed) (hb : b.Keyed) (hc : c.Keyed) :
    (∀ m, IsUnion a b m ↔ m = a.merge b) ∧
      (∀ name unit, (a.merge b).get? name unit =
        (unit.bind fun id => (b.find? name (.unit id)).or (a.find? name (.unit id))).or
          ((b.find? name .shared).or (a.find? name .shared))) ∧
      (∀ name scope f, (∀ s : Setting, (f s).key = s.key) →
        ((a.merge b).modify name scope f).find? name scope =
          ((b.find? name scope).or (a.find? name scope)).map f) ∧
      (a.merge b).merge c = a.merge (b.merge c) ∧
      merge ∅ a = a ∧ a.merge ∅ = a ∧ a.merge a = a ∧
      ∀ added, ofList added = (added.map fun s => ofList [s]).foldl merge ∅ := by
  refine ⟨fun m => isUnion_iff ha hb, get?_merge hb a, ?_, merge_assoc ha hb hc, empty_merge ha, rfl,
    merge_self ha, ?_⟩
  · intro name scope f hf
    rw [find?_modify hf, find?_merge a hb]
  · intro added
    -- a list of one setting puts in that setting
    rw [List.foldl_map]
    rfl

/-- A shared domain, and a number for one unit. -/
def baseline : Settings :=
  ofList [{ name := "domain", default := .string "example.com" },
    { name := "replicas", scope := .unit "gitea", default := .int 1 }]

/-- A switch, another number for the unit, and a shared number of the same name. -/
def scaled : Settings :=
  ofList [{ name := "verbose", default := .bool false },
    { name := "replicas", scope := .unit "gitea", default := .int 3 },
    { name := "replicas", default := .int 2 }]

/-- Another domain. -/
def relocated : Settings :=
  ofList [{ name := "domain", default := .string "my.org" }]

theorem merge_laws_scaled :
    (baseline.Keyed ∧ scaled.Keyed ∧ relocated.Keyed) ∧
      (baseline.merge scaled).entries.map Setting.key =
        [("domain", .shared), ("replicas", .unit "gitea"), ("verbose", .shared),
          ("replicas", .shared)] ∧
      ((baseline.merge scaled).get? "replicas" (some "gitea")).map Setting.default =
        some (.int 3) ∧
      ((baseline.merge scaled).get? "domain" (some "gitea")).map Setting.default =
        some (.string "example.com") ∧
      (baseline.merge scaled).merge relocated = baseline.merge (scaled.merge relocated) := by
  have hbaseline : baseline.Keyed := keyed_ofList _
  have hscaled : scaled.Keyed := keyed_ofList _
  have hrelocated : relocated.Keyed := keyed_ofList _
  obtain ⟨hunion, hget, -, hassoc, -⟩ := merge_laws hbaseline hscaled hrelocated
  refine ⟨⟨hbaseline, hscaled, hrelocated⟩, ?_, ?_, ?_, hassoc⟩
  · rw [((hunion _).mpr rfl).keys]
    decide
  · rw [hget]
    rfl
  · rw [hget]
    rfl

end Groundwork.Settings
