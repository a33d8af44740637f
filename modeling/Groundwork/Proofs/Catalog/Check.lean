import Mathlib.Data.List.Nodup
import Groundwork.Proofs.Catalog.Rules
import Groundwork.Proofs.Traversal

/-!
# The check of a catalog

`Catalog.check` goes through the units with the ids and the shared kinds it has met so far.  What it
has met `Stands` for the units it has seen: they are coherent, and the table knows the first shared
declaration of each name.  One turn keeps that or finds the fault of the unit (`checkUnit_eq_error`,
`stands_of_checkUnit`), so the whole pass finds the first fault of all (`checkUnits_eq_error`).
Together with the pass over what units are skipped by: a catalog is accepted if and only if it is
well-formed, and otherwise the error is the rule that it breaks first (`check_exact`).
-/

namespace Groundwork

/-! ### Declarations -/

theorem SettingSpec.toSetting_eq_error {s : SettingSpec} {unit : String} {fault : CatalogFault} :
    s.toSetting unit = .error fault ↔
      ∃ v, s.default = some v ∧ v.coerce s.kind = none ∧
        fault = .defaultMismatch unit v s.name s.kind := by
  rw [toSetting, map_eq_error, typedDefault]
  rcases s.default with _ | v
  · simp
  · rcases hcoerce : v.coerce s.kind with _ | v'
    · simp [hcoerce, eq_comm]
    · simp [hcoerce]

theorem SettingSpec.exists_toSetting_iff {s : SettingSpec} {unit : String} :
    (∃ t, s.toSetting unit = .ok t) ↔ s.DefaultFits := by
  rcases hsetting : s.toSetting unit with fault | t
  · obtain ⟨v, hdefault, hcoerce, -⟩ := toSetting_eq_error.mp hsetting
    simp [DefaultFits, hdefault, hcoerce]
  · have hfits : s.DefaultFits := by
      intro v hdefault
      by_contra hnone
      have hcoerce : v.coerce s.kind = none := Option.eq_none_iff_forall_ne_some.mpr
        fun v' hv' => hnone ⟨v', hv'⟩
      have herror : s.toSetting unit = .error (.defaultMismatch unit v s.name s.kind) :=
        toSetting_eq_error.mpr ⟨v, hdefault, hcoerce, rfl⟩
      rw [hsetting] at herror
      cases herror
    exact ⟨fun _ => hfits, fun _ => ⟨t, rfl⟩⟩

namespace UnitSpec

variable {u : UnitSpec} {fault : CatalogFault}

theorem declared_eq_error : u.declared = .error fault ↔ Catalog.Misfit u.id u.settings fault := by
  rw [declared, map_eq_error, mapM_eq_error]
  simp only [SettingSpec.exists_toSetting_iff, SettingSpec.toSetting_eq_error]
  rfl

theorem exists_declared_iff :
    (∃ declared, u.declared = .ok declared) ↔ ∀ s ∈ u.settings, s.DefaultFits := by
  have hmapM := exists_mapM_eq_ok_iff (f := fun s => SettingSpec.toSetting s u.id) (l := u.settings)
  simp only [SettingSpec.exists_toSetting_iff] at hmapM
  rw [← hmapM]
  constructor
  · rintro ⟨declared, h⟩
    obtain ⟨settings, hsettings, -⟩ := map_eq_ok.mp h
    exact ⟨settings, hsettings⟩
  · rintro ⟨settings, hsettings⟩
    exact ⟨_, map_eq_ok.mpr ⟨settings, hsettings, rfl⟩⟩

end UnitSpec

namespace Catalog

variable {declarations : List (SettingSpec × String)} {units before post : List UnitSpec}
  {u : UnitSpec} {s : SettingSpec} {settings rest : List SettingSpec} {unit name : String}
  {fault : CatalogFault}

/-! ### Shared declarations -/

theorem sharedIn_cons (unit : String) (s : SettingSpec) (rest : List SettingSpec) :
    sharedIn unit (s :: rest) = sharedIn unit [s] ++ sharedIn unit rest := by
  rw [← List.singleton_append, sharedIn, List.filter_append, List.map_append]
  rfl

theorem sharedIn_of_private (h : s.isPrivate = true) : sharedIn unit [s] = [] := by
  simp [sharedIn, h]

theorem sharedIn_of_shared (h : s.isPrivate = false) : sharedIn unit [s] = [(s, unit)] := by
  simp [sharedIn, h]

theorem mem_sharedIn {d : SettingSpec × String} :
    d ∈ sharedIn unit settings ↔ d.1 ∈ settings ∧ d.1.isPrivate = false ∧ d.2 = unit := by
  simp only [sharedIn, List.mem_map, List.mem_filter, Bool.not_eq_true']
  constructor
  · rintro ⟨s, ⟨hs, hshared⟩, rfl⟩
    exact ⟨hs, hshared, rfl⟩
  · rintro ⟨hs, hshared, hunit⟩
    exact ⟨d.1, ⟨hs, hshared⟩, Prod.ext rfl hunit.symm⟩

theorem mem_sharedOf {d : SettingSpec × String} :
    d ∈ sharedOf units ↔
      ∃ u ∈ units, d.1 ∈ u.settings ∧ d.1.isPrivate = false ∧ d.2 = u.id := by
  simp [sharedOf, List.mem_flatMap, mem_sharedIn]

theorem sharedOf_append_singleton (before : List UnitSpec) (u : UnitSpec) :
    sharedOf (before ++ [u]) = sharedOf before ++ sharedIn u.id u.settings := by
  simp [sharedOf]

theorem first?_eq_some {d : SettingSpec × String} (h : first? declarations name = some d) :
    d ∈ declarations ∧ d.1.name = name :=
  ⟨List.mem_of_find?_eq_some h, by simpa using List.find?_some h⟩

theorem exists_first?_of_mem {d : SettingSpec × String} (h : d ∈ declarations) :
    ∃ e, first? declarations d.1.name = some e := by
  rw [← Option.isSome_iff_exists, first?, List.find?_isSome]
  exact ⟨d, h, by simp⟩

theorem first?_append_singleton (declarations : List (SettingSpec × String)) (s : SettingSpec)
    (unit name : String) :
    first? (declarations ++ [(s, unit)]) name =
      (first? declarations name).or (if s.name = name then some (s, unit) else none) := by
  rw [first?, List.find?_append, List.find?_singleton, first?]
  simp

/-- One more declaration agrees with the others if it does with the first of its name. -/
theorem KindsAgree.push (h : KindsAgree declarations)
    (hs : ∀ d, first? declarations s.name = some d → d.1.kind = s.kind) :
    KindsAgree (declarations ++ [(s, unit)]) := by
  have hnew : ∀ d ∈ declarations, d.1.name = s.name → d.1.kind = s.kind := by
    intro d hd hname
    obtain ⟨e, he⟩ := exists_first?_of_mem hd
    obtain ⟨hmem, heName⟩ := first?_eq_some he
    rw [h d hd e hmem heName.symm]
    exact hs e (hname ▸ he)
  intro d hd e he hname
  rw [List.mem_append, List.mem_singleton] at hd he
  rcases hd with hd | rfl
  · rcases he with he | rfl
    · exact h d hd e he hname
    · exact hnew d hd hname
  · rcases he with he | rfl
    · exact (hnew e he hname.symm).symm
    · rfl

theorem kindsAgree_sharedOf :
    KindsAgree (sharedOf units) ↔
      ∀ u ∈ units, ∀ v ∈ units, ∀ s ∈ u.settings, ∀ t ∈ v.settings,
        s.isPrivate = false → t.isPrivate = false → s.name = t.name → s.kind = t.kind := by
  constructor
  · intro h u hu v hv s hs t ht hsShared htShared hname
    exact h (s, u.id) (mem_sharedOf.mpr ⟨u, hu, hs, hsShared, rfl⟩) (t, v.id)
      (mem_sharedOf.mpr ⟨v, hv, ht, htShared, rfl⟩) hname
  · intro h d hd e he hname
    obtain ⟨u, hu, hdu, hdShared, -⟩ := mem_sharedOf.mp hd
    obtain ⟨v, hv, hev, heShared, -⟩ := mem_sharedOf.mp he
    exact h u hu v hv d.1 hdu e.1 hev hdShared heShared hname

/-! ### Coherence -/

theorem Coherent.of_append (h : Coherent (before ++ post)) : Coherent before where
  named u hu := h.named u (List.mem_append_left _ hu)
  distinct := by
    have hdistinct := h.distinct
    rw [List.map_append] at hdistinct
    exact (List.nodup_append.mp hdistinct).1
  sourced u hu := h.sourced u (List.mem_append_left _ hu)
  fitting u hu := h.fitting u (List.mem_append_left _ hu)
  agreeing u hu v hv := h.agreeing u (List.mem_append_left _ hu) v (List.mem_append_left _ hv)

theorem distinct_append_singleton :
    ((before ++ [u]).map UnitSpec.id).Nodup ↔
      (before.map UnitSpec.id).Nodup ∧ ∀ v ∈ before, v.id ≠ u.id := by
  rw [List.map_append, List.map_singleton, List.nodup_append]
  simp

/-- The rules for one more unit, given that those before it keep them. -/
theorem coherent_append_singleton :
    Coherent (before ++ [u]) ↔
      Coherent before ∧ FreshId before u ∧ u.HasSource ∧ (∀ s ∈ u.settings, s.DefaultFits) ∧
        KindsAgree (sharedOf (before ++ [u])) := by
  have hu : u ∈ before ++ [u] := List.mem_append_right _ (List.mem_singleton_self u)
  constructor
  · intro h
    have hnew := (distinct_append_singleton.mp h.distinct).2
    exact ⟨h.of_append, ⟨h.named u hu, hnew⟩, h.sourced u hu, h.fitting u hu,
      kindsAgree_sharedOf.mpr h.agreeing⟩
  · rintro ⟨h, hid, hsource, hfit, hagree⟩
    have hall {P : UnitSpec → Prop} (hbefore : ∀ v ∈ before, P v) (hlast : P u) :
        ∀ v ∈ before ++ [u], P v :=
      List.forall_mem_append.mpr ⟨hbefore, List.forall_mem_singleton.mpr hlast⟩
    exact
      { named := hall h.named hid.1
        distinct := distinct_append_singleton.mpr ⟨h.distinct, hid.2⟩
        sourced := hall h.sourced hsource
        fitting := hall h.fitting hfit
        agreeing := kindsAgree_sharedOf.mp hagree }

theorem UnitFault.not_coherent (h : UnitFault before u fault) :
    ¬Coherent (before ++ u :: post) := by
  intro hcoherent
  rw [List.append_cons] at hcoherent
  obtain ⟨-, hfresh, hsourced, hfits, hagree⟩ :=
    coherent_append_singleton.mp hcoherent.of_append
  cases h with
  | noId hid => exact hfresh.1 hid
  | takenId _ htaken =>
    obtain ⟨v, hv, heq⟩ := htaken
    exact hfresh.2 v hv heq
  | noManifest _ hkind hnone => exact hsourced.1 hkind hnone
  | noChart _ hkind hnone => exact hsourced.2 hkind hnone
  | misfit _ _ hmisfit =>
    obtain ⟨pre, s, post, hsettings, -, v, hdefault, hcoerce, -⟩ := hmisfit
    obtain ⟨v', hv'⟩ := hfits s (by simp [hsettings]) v hdefault
    rw [hcoerce] at hv'
    cases hv'
  | conflict _ _ _ hconflict =>
    obtain ⟨pre, s, post, hsettings, hshared, -, d, hfirst, hne, -⟩ := hconflict
    obtain ⟨hmem, hname⟩ := first?_eq_some hfirst
    have hs : (s, u.id) ∈ sharedOf (before ++ [u]) :=
      mem_sharedOf.mpr ⟨u, by simp, by simp [hsettings], hshared, rfl⟩
    have hd : d ∈ sharedOf (before ++ [u]) := by
      rw [sharedOf_append_singleton, List.mem_append]
      rcases List.mem_append.mp hmem with hmem | hmem
      · exact Or.inl hmem
      · obtain ⟨hpre, hrest⟩ := mem_sharedIn.mp hmem
        exact Or.inr (mem_sharedIn.mpr ⟨by simp [hsettings, hpre], hrest⟩)
    exact hne (hagree d hd _ hs hname)

/-! ### The pass over shared declarations -/

theorem SharedKinds.get?_append (shared : SharedKinds) (name other unit : String) (kind : Kind) :
    SharedKinds.get? (shared ++ [(other, kind, unit)]) name =
      (shared.get? name).or (if other = name then some (kind, unit) else none) := by
  rw [get?, List.find?_append, List.find?_singleton, Option.map_or, get?]
  by_cases hname : other = name
  · simp [hname]
  · simp [hname]

/-- The table has the kind and the unit of the first declaration of each name. -/
def SharedKinds.Knows (shared : SharedKinds) (declarations : List (SettingSpec × String)) : Prop :=
  ∀ name, shared.get? name = (first? declarations name).map fun d => (d.1.kind, d.2)

variable {shared shared' : SharedKinds}

/-- A name that is known already stays as it is known. -/
theorem SharedKinds.Knows.push_known {d : SettingSpec × String} (h : shared.Knows declarations)
    (hd : first? declarations s.name = some d) : shared.Knows (declarations ++ [(s, unit)]) := by
  intro name
  rw [h name, first?_append_singleton]
  by_cases hname : s.name = name
  · rw [← hname, hd]
    rfl
  · rw [if_neg hname, Option.or_none]

theorem SharedKinds.Knows.push (h : shared.Knows declarations) :
    Knows (shared ++ [(s.name, s.kind, unit)]) (declarations ++ [(s, unit)]) := by
  intro name
  rw [get?_append, h name, first?_append_singleton, Option.map_or]
  by_cases hname : s.name = name
  · rw [if_pos hname, if_pos hname]
    rfl
  · rw [if_neg hname, if_neg hname]
    rfl

/-- A declaration is passed over because it is private, it is in conflict with the first one of its
name, or it agrees with that and the table takes note of it. -/
theorem checkShared_cases (h : shared.Knows declarations) (unit : String) (s : SettingSpec)
    (rest : List SettingSpec) :
    s.isPrivate = true ∧ checkShared unit shared (s :: rest) = checkShared unit shared rest ∨
      (s.isPrivate = false ∧ ∃ d, first? declarations s.name = some d ∧ d.1.kind ≠ s.kind ∧
        checkShared unit shared (s :: rest) =
          .error (.kindConflict s.name d.1.kind d.2 s.kind unit)) ∨
      s.isPrivate = false ∧ (∀ d, first? declarations s.name = some d → d.1.kind = s.kind) ∧
        ∃ shared', shared'.Knows (declarations ++ [(s, unit)]) ∧
          checkShared unit shared (s :: rest) = checkShared unit shared' rest := by
  rw [checkShared]
  by_cases hprivate : s.isPrivate = true
  · exact Or.inl ⟨hprivate, if_pos hprivate⟩
  rw [if_neg hprivate]
  rw [Bool.not_eq_true] at hprivate
  rcases hfirst : first? declarations s.name with _ | d
  · -- the first declaration of its name
    have hnone : shared.get? s.name = none := by
      rw [h, hfirst]
      rfl
    refine Or.inr (Or.inr ⟨hprivate, ?_, _, h.push, ?_⟩)
    · intro d hd
      cases hd
    · rw [hnone]
  · have hsome : shared.get? s.name = some (d.1.kind, d.2) := by
      rw [h, hfirst]
      rfl
    rw [hsome]
    by_cases hkind : d.1.kind = s.kind
    · refine Or.inr (Or.inr ⟨hprivate, fun e he => ?_, shared, h.push_known hfirst, if_pos hkind⟩)
      rw [← Option.some.inj he]
      exact hkind
    · exact Or.inr (Or.inl ⟨hprivate, d, rfl, hkind, if_neg hkind⟩)

theorem conflict_cons :
    Conflict declarations unit (s :: rest) fault ↔
      (s.isPrivate = false ∧ KindsAgree declarations ∧
        ∃ d, first? declarations s.name = some d ∧ d.1.kind ≠ s.kind ∧
          fault = .kindConflict s.name d.1.kind d.2 s.kind unit) ∨
      Conflict (declarations ++ sharedIn unit [s]) unit rest fault := by
  have hnil : declarations ++ sharedIn unit [] = declarations := List.append_nil _
  rw [Conflict, exists_split_cons, hnil, Conflict]
  simp only [List.append_assoc, ← sharedIn_cons]

/-- The pass fails with the first declaration that is in conflict. -/
theorem checkShared_eq_error (h : shared.Knows declarations) (hagree : KindsAgree declarations) :
    checkShared unit shared settings = .error fault ↔
      Conflict declarations unit settings fault := by
  induction settings generalizing shared declarations with
  | nil =>
    constructor
    · intro herror
      cases herror
    · rintro ⟨pre, s, post, hnil, -⟩
      simp at hnil
  | cons s rest ih =>
    rw [conflict_cons]
    rcases checkShared_cases h unit s rest with ⟨hprivate, hnext⟩ |
      ⟨hshared, d, hfirst, hne, hnext⟩ | ⟨hshared, hkinds, shared', hknows, hnext⟩
    · rw [hnext, ih h hagree, sharedIn_of_private hprivate, List.append_nil]
      simp [hprivate]
    · rw [hnext]
      constructor
      · intro herror
        cases herror
        exact Or.inl ⟨hshared, hagree, d, hfirst, hne, rfl⟩
      · rintro (⟨-, -, e, he, -, rfl⟩ | ⟨pre, t, post, -, -, hlater, -⟩)
        · obtain rfl := Option.some.inj (hfirst.symm.trans he)
          rfl
        · -- behind a conflict the declarations do not agree any more
          obtain ⟨hmem, hname⟩ := first?_eq_some hfirst
          rw [sharedIn_of_shared hshared] at hlater
          exact absurd (hlater d (by simp [hmem]) (s, unit) (by simp) hname) hne
    · rw [hnext, sharedIn_of_shared hshared, ih hknows (hagree.push hkinds)]
      constructor
      · exact Or.inr
      · rintro (⟨-, -, d, hfirst, hne, -⟩ | hlater)
        · exact absurd (hkinds d hfirst) hne
        · exact hlater

theorem knows_of_checkShared (h : shared.Knows declarations) (hagree : KindsAgree declarations)
    (hok : checkShared unit shared settings = .ok shared') :
    shared'.Knows (declarations ++ sharedIn unit settings) ∧
      KindsAgree (declarations ++ sharedIn unit settings) := by
  induction settings generalizing shared declarations with
  | nil =>
    cases hok
    rw [sharedIn, List.filter_nil, List.map_nil, List.append_nil]
    exact ⟨h, hagree⟩
  | cons s rest ih =>
    rw [sharedIn_cons, ← List.append_assoc]
    rcases checkShared_cases h unit s rest with ⟨hprivate, hnext⟩ | ⟨-, d, -, -, hnext⟩ |
      ⟨hshared, hkinds, known, hknows, hnext⟩
    · rw [hnext] at hok
      rw [sharedIn_of_private hprivate, List.append_nil]
      exact ih h hagree hok
    · rw [hnext] at hok
      cases hok
    · rw [hnext] at hok
      rw [sharedIn_of_shared hshared]
      exact ih hknows (hagree.push hkinds) hok

/-! ### The turn of a unit -/

theorem checkSource_eq_error :
    checkSource u = .error fault ↔
      u.kind = .manifest ∧ u.manifest = none ∧ fault = .missingManifest u.id ∨
        u.kind ≠ .manifest ∧ u.chart = none ∧ fault = .missingChart u.id := by
  unfold checkSource
  cases u.kind with
  | manifest => cases u.manifest <;> simp [eq_comm]
  | chart => cases u.chart <;> simp [eq_comm]
  | ingress => cases u.chart <;> simp [eq_comm]

theorem exists_checkSource_iff : (∃ done, checkSource u = .ok done) ↔ u.HasSource := by
  unfold checkSource UnitSpec.HasSource
  cases u.kind with
  | manifest => cases u.manifest <;> simp
  | chart => cases u.chart <;> simp
  | ingress => cases u.chart <;> simp

/-- The turn of one unit. -/
def checkUnit (ids : List String) (shared : SharedKinds) (u : UnitSpec) :
    Except CatalogFault SharedKinds := do
  if u.id.isEmpty then throw .emptyUnitId
  else if u.id ∈ ids then throw (.duplicateUnit u.id)
  else
    checkSource u
    let _ ← u.declared
    checkShared u.id shared u.settings

theorem checkUnits_cons (ids : List String) (shared : SharedKinds) (u : UnitSpec)
    (rest : List UnitSpec) :
    checkUnits ids shared (u :: rest) =
      checkUnit ids shared u >>= fun known => checkUnits (u.id :: ids) known rest := by
  rw [checkUnits, checkUnit]
  split
  · rfl
  split
  · rfl
  simp only [bind_assoc]

/-- The ids and the table are those of the units before, and these keep the rules. -/
structure Stands (ids : List String) (shared : SharedKinds) (before : List UnitSpec) : Prop where
  ids : ∀ id, id ∈ ids ↔ ∃ v ∈ before, v.id = id
  knows : shared.Knows (sharedOf before)
  coherent : Coherent before

variable {ids : List String}

theorem stands_nil : Stands [] [] [] where
  ids id := by simp
  knows name := rfl
  coherent := by constructor <;> simp

theorem Stands.kindsAgree (h : Stands ids shared before) : KindsAgree (sharedOf before) :=
  kindsAgree_sharedOf.mpr h.coherent.agreeing

theorem checkUnit_of_fresh (h : Stands ids shared before) (hid : FreshId before u) :
    checkUnit ids shared u =
      checkSource u >>= fun _ => u.declared >>= fun _ => checkShared u.id shared u.settings := by
  have hnew : u.id ∉ ids := by
    rw [h.ids]
    rintro ⟨v, hv, heq⟩
    exact hid.2 v hv heq
  rw [checkUnit, if_neg (by simpa using hid.1), if_neg hnew]

/-- A unit without a fresh id has none or one that is taken. -/
theorem freshId_cases (before : List UnitSpec) (u : UnitSpec) :
    FreshId before u ∨ u.id = "" ∨ u.id ≠ "" ∧ ∃ v ∈ before, v.id = u.id := by
  by_cases hid : u.id = ""
  · exact Or.inr (Or.inl hid)
  by_cases htaken : ∃ v ∈ before, v.id = u.id
  · exact Or.inr (Or.inr ⟨hid, htaken⟩)
  · exact Or.inl ⟨hid, fun v hv heq => htaken ⟨v, hv, heq⟩⟩

theorem checkUnit_of_noId (hid : u.id = "") : checkUnit ids shared u = .error .emptyUnitId := by
  rw [checkUnit, if_pos (by simpa using hid)]
  rfl

theorem checkUnit_of_takenId (h : Stands ids shared before) (hid : u.id ≠ "")
    (htaken : ∃ v ∈ before, v.id = u.id) :
    checkUnit ids shared u = .error (.duplicateUnit u.id) := by
  rw [checkUnit, if_neg (by simpa using hid), if_pos ((h.ids _).mpr htaken)]
  rfl

/-- A unit with a fresh id is judged by its source, its defaults and its kinds, in this order. -/
theorem checkUnit_eq_error_of_fresh (h : Stands ids shared before) (hid : FreshId before u) :
    checkUnit ids shared u = .error fault ↔
      checkSource u = .error fault ∨ u.HasSource ∧ (Misfit u.id u.settings fault ∨
        (∀ s ∈ u.settings, s.DefaultFits) ∧
          Conflict (sharedOf before) u.id u.settings fault) := by
  rw [checkUnit_of_fresh h hid, bind_eq_error, ← UnitSpec.declared_eq_error,
    ← UnitSpec.exists_declared_iff, ← checkShared_eq_error h.knows h.kindsAgree,
    ← exists_checkSource_iff]
  simp only [bind_eq_error, exists_and_right]

/-- The turn of a unit fails with the rule that the unit breaks first. -/
theorem checkUnit_eq_error (h : Stands ids shared before) :
    checkUnit ids shared u = .error fault ↔ UnitFault before u fault := by
  constructor
  · intro herror
    rcases freshId_cases before u with hid | hid | ⟨hid, htaken⟩
    · rw [checkUnit_eq_error_of_fresh h hid] at herror
      rcases herror with hsource | ⟨hsource, hmisfit | ⟨hfit, hconflict⟩⟩
      · rcases checkSource_eq_error.mp hsource with ⟨hkind, hnone, rfl⟩ | ⟨hkind, hnone, rfl⟩
        · exact .noManifest hid hkind hnone
        · exact .noChart hid hkind hnone
      · exact .misfit hid hsource hmisfit
      · exact .conflict hid hsource hfit hconflict
    · rw [checkUnit_of_noId hid] at herror
      cases herror
      exact .noId hid
    · rw [checkUnit_of_takenId h hid htaken] at herror
      cases herror
      exact .takenId hid htaken
  · intro hfault
    cases hfault with
    | noId hid => exact checkUnit_of_noId hid
    | takenId hid htaken => exact checkUnit_of_takenId h hid htaken
    | noManifest hid hkind hnone =>
      rw [checkUnit_eq_error_of_fresh h hid]
      exact Or.inl (checkSource_eq_error.mpr (Or.inl ⟨hkind, hnone, rfl⟩))
    | noChart hid hkind hnone =>
      rw [checkUnit_eq_error_of_fresh h hid]
      exact Or.inl (checkSource_eq_error.mpr (Or.inr ⟨hkind, hnone, rfl⟩))
    | misfit hid hsource hmisfit =>
      rw [checkUnit_eq_error_of_fresh h hid]
      exact Or.inr ⟨hsource, Or.inl hmisfit⟩
    | conflict hid hsource hfit hconflict =>
      rw [checkUnit_eq_error_of_fresh h hid]
      exact Or.inr ⟨hsource, Or.inr ⟨hfit, hconflict⟩⟩

theorem stands_of_checkUnit (h : Stands ids shared before)
    (hok : checkUnit ids shared u = .ok shared') :
    Stands (u.id :: ids) shared' (before ++ [u]) := by
  have hid : FreshId before u := by
    rcases freshId_cases before u with hid | hid | ⟨hid, htaken⟩
    · exact hid
    · rw [checkUnit_of_noId hid] at hok
      cases hok
    · rw [checkUnit_of_takenId h hid htaken] at hok
      cases hok
  rw [checkUnit_of_fresh h hid] at hok
  obtain ⟨done, hsource, hok⟩ := bind_eq_ok.mp hok
  obtain ⟨declared, hdeclared, hok⟩ := bind_eq_ok.mp hok
  obtain ⟨hknows, hagree⟩ := knows_of_checkShared h.knows h.kindsAgree hok
  rw [← sharedOf_append_singleton] at hknows hagree
  refine ⟨fun id => ?_, hknows, coherent_append_singleton.mpr ⟨h.coherent, hid, ?_, ?_, hagree⟩⟩
  · rw [List.mem_cons, h.ids, or_comm]
    simp [or_and_right, exists_or, eq_comm]
  · exact exists_checkSource_iff.mp ⟨done, hsource⟩
  · exact UnitSpec.exists_declared_iff.mp ⟨declared, hdeclared⟩

/-! ### The pass over units -/

/-- The pass fails with the fault of the first unit that has one. -/
theorem checkUnits_eq_error (h : Stands ids shared before) :
    checkUnits ids shared units = .error fault ↔
      ∃ pre u post, units = pre ++ u :: post ∧ Coherent (before ++ pre) ∧
        UnitFault (before ++ pre) u fault := by
  induction units generalizing ids shared before with
  | nil => exact iff_of_false nofun not_exists_split_nil
  | cons u rest ih =>
    rw [checkUnits_cons, bind_eq_error, checkUnit_eq_error h, exists_split_cons, List.append_nil]
    constructor
    · rintro (hfault | ⟨known, hok, hrest⟩)
      · exact Or.inl ⟨h.coherent, hfault⟩
      · obtain ⟨pre, v, post, hrest, hlater⟩ := (ih (stands_of_checkUnit h hok)).mp hrest
        rw [← List.append_cons] at hlater
        exact Or.inr ⟨pre, v, post, hrest, hlater⟩
    · rintro (⟨-, hfault⟩ | ⟨pre, v, post, hrest, hcoherent, hfault⟩)
      · exact Or.inl hfault
      · -- the units up to a later one that has a fault keep the rules, so this one has none
        rcases hturn : checkUnit ids shared u with earlier | known
        · exact absurd hcoherent ((checkUnit_eq_error h).mp hturn).not_coherent
        · rw [List.append_cons] at hcoherent hfault
          exact Or.inr ⟨known, rfl,
            (ih (stands_of_checkUnit h hturn)).mpr ⟨pre, v, post, hrest, hcoherent, hfault⟩⟩

theorem stands_of_checkUnits (h : Stands ids shared before)
    (hok : checkUnits ids shared units = .ok shared') :
    ∃ ids', Stands ids' shared' (before ++ units) := by
  induction units generalizing ids shared before with
  | nil =>
    cases hok
    exact ⟨ids, by rwa [List.append_nil]⟩
  | cons u rest ih =>
    rw [checkUnits_cons] at hok
    obtain ⟨known, hturn, hrest⟩ := bind_eq_ok.mp hok
    rw [List.append_cons]
    exact ih (stands_of_checkUnit h hturn) hrest

theorem exists_checkUnits_of_coherent (h : Coherent units) :
    ∃ shared, checkUnits [] [] units = .ok shared := by
  rcases hpass : checkUnits [] [] units with fault | shared
  · obtain ⟨pre, u, post, rfl, -, hfault⟩ := (checkUnits_eq_error stands_nil).mp hpass
    exact absurd h hfault.not_coherent
  · exact ⟨shared, rfl⟩

/-! ### The pass over what units are skipped by -/

theorem skipKind?_eq_some_iff {all : List UnitSpec} (h : Stands ids shared all) {skip : String}
    {kind : Kind} : skipKind? shared u skip = some kind ↔ Means all u skip kind := by
  rw [skipKind?, Means]
  generalize hown : List.find? _ u.settings = own
  rcases own with _ | s
  · have hnone : ∀ s ∈ u.settings, s.name ≠ skip := by simpa using hown
    rw [Option.map_none, Option.none_or, h.knows]
    constructor
    · intro hkind
      obtain ⟨entry, hentry, rfl⟩ := Option.map_eq_some_iff.mp hkind
      obtain ⟨d, hd, rfl⟩ := Option.map_eq_some_iff.mp hentry
      obtain ⟨hmem, hname⟩ := first?_eq_some hd
      obtain ⟨v, hv, hdv, hshared, -⟩ := mem_sharedOf.mp hmem
      exact Or.inr ⟨hnone, v, hv, d.1, hdv, hshared, hname, rfl⟩
    · rintro (⟨s, hs, -⟩ | ⟨-, v, hv, s, hs, hshared, rfl, rfl⟩)
      · cases hs
      · have hmem : (s, v.id) ∈ sharedOf all := mem_sharedOf.mpr ⟨v, hv, hs, hshared, rfl⟩
        obtain ⟨d, hd⟩ := exists_first?_of_mem hmem
        obtain ⟨hdmem, hdname⟩ := first?_eq_some hd
        rw [hd, ← h.kindsAgree d hdmem _ hmem hdname]
        rfl
  · have hs : s ∈ u.settings ∧ s.name = skip :=
      ⟨List.mem_of_find?_eq_some hown, by simpa using List.find?_some hown⟩
    constructor
    · intro hkind
      exact Or.inl ⟨s, rfl, Option.some.inj hkind⟩
    · rintro (⟨t, ht, rfl⟩ | ⟨hnone, -⟩)
      · rw [← Option.some.inj ht]
        rfl
      · exact absurd hs.2 (hnone s hs.1)

/-- The pass goes past a unit that is skipped by a truth value, and fails with any other. -/
theorem checkSkips_cases {all : List UnitSpec} (h : Stands ids shared all) (u : UnitSpec)
    (rest : List UnitSpec) :
    SkippedByTruth all u ∧ checkSkips shared (u :: rest) = checkSkips shared rest ∨
      ∃ skip kind, u.skipSetting = some skip ∧ Means all u skip kind ∧ kind ≠ .boolean ∧
        checkSkips shared (u :: rest) = .error (.skipNotBoolean u.id skip kind) := by
  rw [checkSkips]
  rcases hskip : u.skipSetting with _ | skip
  · refine Or.inl ⟨fun skip kind hsome => ?_, rfl⟩
    rw [hskip] at hsome
    cases hsome
  rcases hkind : skipKind? shared u skip with _ | kind
  · refine Or.inl ⟨fun other kind hsome hmeans => ?_, by simp only [hkind]⟩
    obtain rfl := Option.some.inj (hskip.symm.trans hsome)
    rw [(skipKind?_eq_some_iff h).mpr hmeans] at hkind
    cases hkind
  by_cases hboolean : kind = .boolean
  · refine Or.inl ⟨fun other otherKind hsome hmeans => ?_, by simp only [hkind, if_pos hboolean]⟩
    obtain rfl := Option.some.inj (hskip.symm.trans hsome)
    rw [(skipKind?_eq_some_iff h).mpr hmeans] at hkind
    rw [Option.some.inj hkind]
    exact hboolean
  · refine Or.inr ⟨skip, kind, rfl, (skipKind?_eq_some_iff h).mp hkind, hboolean, ?_⟩
    simp only [hkind, if_neg hboolean]

theorem checkSkips_eq_ok {all : List UnitSpec} (h : Stands ids shared all) :
    checkSkips shared units = .ok () ↔ ∀ u ∈ units, SkippedByTruth all u := by
  induction units with
  | nil => simp [checkSkips]
  | cons u rest ih =>
    rw [List.forall_mem_cons]
    rcases checkSkips_cases h u rest with ⟨htruth, hnext⟩ | ⟨skip, kind, hskip, hmeans, hne, hnext⟩
    · rw [hnext, ih]
      simp [htruth]
    · rw [hnext]
      constructor
      · intro hok
        cases hok
      · rintro ⟨htruth, -⟩
        exact absurd (htruth skip kind hskip hmeans) hne

theorem checkSkips_eq_error {all : List UnitSpec} (h : Stands ids shared all) :
    checkSkips shared units = .error fault ↔
      ∃ pre u post, units = pre ++ u :: post ∧ (∀ v ∈ pre, SkippedByTruth all v) ∧
        ∃ skip kind, u.skipSetting = some skip ∧ Means all u skip kind ∧ kind ≠ .boolean ∧
          fault = .skipNotBoolean u.id skip kind := by
  induction units with
  | nil => simp [checkSkips]
  | cons u rest ih =>
    rw [exists_split_cons]
    simp only [List.forall_mem_cons]
    rcases checkSkips_cases h u rest with ⟨htruth, hnext⟩ | ⟨skip, kind, hskip, hmeans, hne, hnext⟩
    · rw [hnext, ih]
      constructor
      · rintro ⟨pre, v, post, hrest, hpre, hv⟩
        exact Or.inr ⟨pre, v, post, hrest, ⟨htruth, hpre⟩, hv⟩
      · rintro (⟨-, skip, kind, hskip, hmeans, hne, -⟩ | ⟨pre, v, post, hrest, ⟨-, hpre⟩, hv⟩)
        · exact absurd (htruth skip kind hskip hmeans) hne
        · exact ⟨pre, v, post, hrest, hpre, hv⟩
    · rw [hnext]
      constructor
      · intro herror
        cases herror
        exact Or.inl ⟨List.forall_mem_nil _, skip, kind, hskip, hmeans, hne, rfl⟩
      · rintro (⟨-, other, otherKind, hskip', hmeans', -, rfl⟩ | ⟨-, -, -, -, ⟨htruth, -⟩, -⟩)
        · -- the name has one meaning only
          obtain rfl := Option.some.inj (hskip.symm.trans hskip')
          rw [← skipKind?_eq_some_iff h] at hmeans hmeans'
          obtain rfl := Option.some.inj (hmeans.symm.trans hmeans')
          rfl
        · exact absurd (htruth skip kind hskip hmeans) hne

/-! ### The whole check -/

variable {c : Catalog}

theorem check_of_zero (h : c.budgets.multiplier = 0) : c.check = .error .zeroMultiplier :=
  if_pos h

theorem check_of_pos (h : 1 ≤ c.budgets.multiplier) :
    c.check = checkUnits [] [] c.units >>= fun shared => checkSkips shared c.units := by
  refine if_neg fun hzero => ?_
  rw [hzero] at h
  cases h

theorem zero_or_pos (m : UInt32) : m = 0 ∨ 1 ≤ m := by
  rw [UInt32.le_iff_toNat_le, ← UInt32.toNat_inj]
  exact Nat.eq_zero_or_pos m.toNat

theorem check_eq_ok_iff : c.check = .ok () ↔ c.WellFormed := by
  constructor
  · intro hok
    rcases zero_or_pos c.budgets.multiplier with hzero | hpos
    · rw [check_of_zero hzero] at hok
      cases hok
    rw [check_of_pos hpos] at hok
    obtain ⟨shared, hunits, hskips⟩ := bind_eq_ok.mp hok
    obtain ⟨ids, hstands⟩ := stands_of_checkUnits stands_nil hunits
    exact ⟨hpos, hstands.coherent, (checkSkips_eq_ok hstands).mp hskips⟩
  · intro h
    obtain ⟨shared, hunits⟩ := exists_checkUnits_of_coherent h.coherent
    obtain ⟨ids, hstands⟩ := stands_of_checkUnits stands_nil hunits
    rw [check_of_pos h.multiplier]
    exact bind_eq_ok.mpr ⟨shared, hunits, (checkSkips_eq_ok hstands).mpr h.skipped⟩

theorem check_eq_error_iff : c.check = .error fault ↔ c.FirstFault fault := by
  constructor
  · intro herror
    rcases zero_or_pos c.budgets.multiplier with hzero | hpos
    · rw [check_of_zero hzero] at herror
      cases herror
      exact .multiplier hzero
    rw [check_of_pos hpos] at herror
    rcases bind_eq_error.mp herror with hunits | ⟨shared, hunits, hskips⟩
    · obtain ⟨before, u, after, hsplit, hbefore, hfault⟩ :=
        (checkUnits_eq_error stands_nil).mp hunits
      exact .unit hpos hsplit hbefore hfault
    · obtain ⟨ids, hstands⟩ := stands_of_checkUnits stands_nil hunits
      obtain ⟨before, u, after, hsplit, hbefore, skip, kind, hskip, hmeans, hne, rfl⟩ :=
        (checkSkips_eq_error hstands).mp hskips
      exact .skip hpos hstands.coherent hsplit hbefore hskip hmeans hne
  · intro hfault
    cases hfault with
    | multiplier hzero => exact check_of_zero hzero
    | unit hpos hsplit hbefore hfault =>
      rw [check_of_pos hpos]
      exact bind_eq_error.mpr
        (Or.inl ((checkUnits_eq_error stands_nil).mpr ⟨_, _, _, hsplit, hbefore, hfault⟩))
    | skip hpos hcoherent hsplit hbefore hskip hmeans hne =>
      obtain ⟨shared, hunits⟩ := exists_checkUnits_of_coherent hcoherent
      obtain ⟨ids, hstands⟩ := stands_of_checkUnits stands_nil hunits
      rw [check_of_pos hpos]
      exact bind_eq_error.mpr (Or.inr ⟨shared, hunits, (checkSkips_eq_error hstands).mpr
        ⟨_, _, _, hsplit, hbefore, _, _, hskip, hmeans, hne, rfl⟩⟩)

/-- A catalog is accepted if and only if it is well-formed, and otherwise the check fails with the
rule that it breaks first. -/
theorem check_exact (c : Catalog) :
    (c.check = .ok () ↔ c.WellFormed) ∧ ∀ fault, c.check = .error fault ↔ c.FirstFault fault :=
  ⟨check_eq_ok_iff, fun _ => check_eq_error_iff⟩

/-! ### What a checked catalog guarantees -/

theorem ids_nodup (h : c.check = .ok ()) : (c.units.map UnitSpec.id).Nodup :=
  (check_eq_ok_iff.mp h).coherent.distinct

theorem exists_declared (h : c.check = .ok ()) {u : UnitSpec} (hu : u ∈ c.units) :
    ∃ declared, u.declared = .ok declared :=
  UnitSpec.exists_declared_iff.mpr ((check_eq_ok_iff.mp h).coherent.fitting u hu)

/-- All shared declarations of a name have one kind. -/
theorem kind_of_shared (h : c.check = .ok ()) {u v : UnitSpec} (hu : u ∈ c.units) (hv : v ∈ c.units)
    {s t : SettingSpec} (hs : s ∈ u.settings) (hsShared : s.isPrivate = false)
    (ht : t ∈ v.settings) (htShared : t.isPrivate = false) (hname : s.name = t.name) :
    s.kind = t.kind :=
  (check_eq_ok_iff.mp h).coherent.agreeing u hu v hv s hs t ht hsShared htShared hname

/-- If all declarations of the name by which a unit is skipped are shared, then wherever the name is
shared it is a truth value. -/
theorem kind_of_shared_skip (h : c.check = .ok ()) {u : UnitSpec} (hu : u ∈ c.units)
    {skip : String} (hskip : u.skipSetting = some skip)
    (hshared : ∀ s ∈ u.settings, s.name = skip → s.isPrivate = false) {v : UnitSpec}
    (hv : v ∈ c.units) {s : SettingSpec} (hs : s ∈ v.settings) (hsShared : s.isPrivate = false)
    (hname : s.name = skip) : s.kind = .boolean := by
  apply (check_eq_ok_iff.mp h).skipped u hu skip s.kind hskip
  rcases hown : u.settings.find? (fun t => t.name = skip) with _ | t
  · exact Or.inr ⟨by simpa using hown, v, hv, s, hs, hsShared, hname, rfl⟩
  · -- the unit's own declaration agrees with the shared kind
    have htName : t.name = skip := by simpa using List.find?_some hown
    have ht : t ∈ u.settings := List.mem_of_find?_eq_some hown
    exact Or.inl ⟨t, hown, kind_of_shared h hu hv ht (hshared t ht htName) hs hsShared
      (htName.trans hname.symm)⟩

end Catalog

end Groundwork
