import Groundwork.Proofs.Component.Sharing
import Groundwork.Proofs.Installer.Gathering
import Groundwork.Proofs.Settings.Order

/-!
# From declarations to settings

The declarations of a catalog are those of its units, in order, and for each unit that is skipped by
a name of which it declares nothing one more, of a shared truth value.  To gather settings is to put
in what these declare, one after the other (`gathered_eq_ofList`).  So in a checked catalog the
gathered settings are those that are declared, each once, in the order and as the last declaration
has it (`Gathers`), as often as they are gathered (`gathers_of_check`).
-/

namespace Groundwork

/-! ### Declarations -/

/-- A declaration and the unit that makes it. -/
structure Declaration where
  unit : UnitSpec
  spec : SettingSpec
  deriving DecidableEq

namespace Declaration

/-- The name and the scope of what is declared. -/
def key (d : Declaration) : String × Scope :=
  (d.spec.name, d.spec.scopeIn d.unit.id)

/-- The setting that is declared. -/
def toSetting (d : Declaration) : Except CatalogFault Setting :=
  d.spec.toSetting d.unit.id

theorem key_of_toSetting {d : Declaration} {s : Setting} (h : d.toSetting = .ok s) :
    s.key = d.key := by
  obtain ⟨hname, hscope, -⟩ := SettingSpec.toSetting_eq_ok h
  exact Prod.ext hname hscope

theorem id_of_key {d : Declaration} {s : Setting} {id : String} (h : d.key = s.key)
    (hs : s.scope = .unit id) : d.unit.id = id := by
  have hscope : d.spec.scopeIn d.unit.id = .unit id := (congrArg Prod.snd h).trans hs
  rw [SettingSpec.scopeIn] at hscope
  split at hscope
  · exact Scope.unit.inj hscope
  · cases hscope

theorem isPrivate_of_key {d : Declaration} {s : Setting} (h : d.key = s.key)
    (hs : s.scope = .shared) : d.spec.isPrivate = false := by
  have hscope : d.spec.scopeIn d.unit.id = .shared := (congrArg Prod.snd h).trans hs
  rw [SettingSpec.scopeIn] at hscope
  split at hscope
  · cases hscope
  · rename_i hshared
    exact Bool.not_eq_true _ ▸ hshared

end Declaration

/-- Apart from a unit without an id, scopes are told apart by their ids. -/
theorem Scope.eq_of_id_eq {a b : Scope} (ha : a ≠ .unit "") (hb : b ≠ .unit "") (h : a.id = b.id) :
    a = b := by
  cases a with
  | shared =>
    cases b with
    | shared => rfl
    | unit id =>
      have hid : id = "" := h.symm
      exact absurd (congrArg Scope.unit hid) hb
  | unit id =>
    cases b with
    | shared =>
      have hid : id = "" := h
      exact absurd (congrArg Scope.unit hid) ha
    | unit other => exact congrArg Scope.unit h

namespace UnitSpec

variable {u : UnitSpec} {d : SettingSpec}

/-- What is declared for a unit that is skipped by a name of which it declares nothing. -/
def skipDeclaration (u : UnitSpec) (skip : String) : SettingSpec :=
  { name := skip, kind := .boolean, description := "Skip installing " ++ u.id }

/-- What the unit declares, and what is declared for it. -/
def declarations (u : UnitSpec) : List SettingSpec :=
  match u.skipSetting with
  | none => u.settings
  | some skip =>
    if ∀ s ∈ u.settings, s.name ≠ skip then u.settings ++ [u.skipDeclaration skip] else u.settings

theorem mem_declarations :
    d ∈ u.declarations ↔ d ∈ u.settings ∨ ∃ skip, u.skipSetting = some skip ∧
      (∀ s ∈ u.settings, s.name ≠ skip) ∧ d = u.skipDeclaration skip := by
  unfold declarations
  cases u.skipSetting with
  | none => simp
  | some skip =>
    by_cases hnone : ∀ s ∈ u.settings, s.name ≠ skip
    · simp only [if_pos hnone, List.mem_append, List.mem_singleton, Option.some.injEq,
        exists_eq_left']
      exact or_congr_right ⟨fun hd => ⟨hnone, hd⟩, And.right⟩
    · simp only [if_neg hnone, Option.some.injEq, exists_eq_left']
      exact ⟨Or.inl, fun h => h.resolve_right fun hd => hnone hd.1⟩

theorem toSetting_skipDeclaration (u : UnitSpec) (skip : String) :
    (u.skipDeclaration skip).toSetting u.id = .ok (ChartUnit.skipSetting u skip) :=
  rfl

end UnitSpec

namespace Catalog

variable {c : Catalog} {d e : Declaration}

/-- The declarations of some units, in order. -/
def declarationsOf (units : List UnitSpec) : List Declaration :=
  units.flatMap fun u => u.declarations.map (Declaration.mk u)

/-- The declarations of all units, in order. -/
def declarations (c : Catalog) : List Declaration :=
  declarationsOf c.units

/-- The last declaration of a name and scope. -/
def last? (c : Catalog) (key : String × Scope) : Option Declaration :=
  c.declarations.reverse.find? fun d => d.key = key

theorem mem_declarations :
    d ∈ c.declarations ↔ d.unit ∈ c.units ∧ d.spec ∈ d.unit.declarations := by
  obtain ⟨u, s⟩ := d
  simp [declarations, declarationsOf, List.mem_flatMap, List.mem_map]

theorem last?_eq_some {key : String × Scope} (h : c.last? key = some d) :
    d ∈ c.declarations ∧ d.key = key :=
  ⟨List.mem_reverse.mp (List.mem_of_find?_eq_some h), by simpa using List.find?_some h⟩

/-- All shared declarations of a name have one kind, those that are made for units included. -/
theorem kind_of_declarations (h : c.check = .ok ()) (hd : d ∈ c.declarations)
    (he : e ∈ c.declarations) (hdShared : d.spec.isPrivate = false)
    (heShared : e.spec.isPrivate = false) (hname : d.spec.name = e.spec.name) :
    d.spec.kind = e.spec.kind := by
  obtain ⟨hdUnit, hdSpec⟩ := mem_declarations.mp hd
  obtain ⟨heUnit, heSpec⟩ := mem_declarations.mp he
  rcases UnitSpec.mem_declarations.mp hdSpec with hdSpec | ⟨skip, hskip, hnone, hdSpec⟩
  · rcases UnitSpec.mem_declarations.mp heSpec with heSpec | ⟨skip, hskip, hnone, heSpec⟩
    · exact kind_of_shared h hdUnit heUnit hdSpec hdShared heSpec heShared hname
    · rw [heSpec] at hname ⊢
      exact kind_of_shared_skip h heUnit hskip (fun s hs heq => absurd heq (hnone s hs)) hdUnit
        hdSpec hdShared hname
  · rw [hdSpec] at hname ⊢
    rcases UnitSpec.mem_declarations.mp heSpec with heSpec | ⟨skip', -, -, heSpec⟩
    · exact (kind_of_shared_skip h hdUnit hskip (fun s hs heq => absurd heq (hnone s hs)) heUnit
        heSpec heShared hname.symm).symm
    · rw [heSpec]
      rfl

end Catalog

/-! ### What is needed -/

/-- A component needs what is declared by its unit and for it. -/
theorem Component.needed_eq_ofList {spec : UnitSpec} {budgets : Budgets} {c : Component}
    (h : ofSpec spec budgets = .ok c) :
    ∃ settings, List.Forall₂ (fun d s => SettingSpec.toSetting d spec.id = .ok s)
        spec.declarations settings ∧ c.needed = Settings.ofList settings := by
  obtain ⟨declared, hdeclared, hneeded⟩ := needed_of_ofSpec h
  have hany (skip : String) : (declared.entries.any fun t => t.name = skip) = true ↔
      ∃ s ∈ spec.settings, s.name = skip := UnitSpec.any_declared_eq_true_iff hdeclared
  obtain ⟨settings, hsettings, rfl⟩ := UnitSpec.declared_eq_ok hdeclared
  rw [hneeded, ChartUnit.withSkipSetting, UnitSpec.declarations]
  cases spec.skipSetting with
  | none => exact ⟨settings, hsettings, rfl⟩
  | some skip =>
    simp only
    by_cases hnone : ∀ s ∈ spec.settings, s.name ≠ skip
    · have hnew : ¬((Settings.ofList settings).entries.any fun t => t.name = skip) = true := by
        rw [hany]
        rintro ⟨s, hs, hname⟩
        exact hnone s hs hname
      rw [if_pos hnone, if_neg hnew, ← Settings.ofList_append_singleton]
      exact ⟨_, List.rel_append hsettings (.cons (spec.toSetting_skipDeclaration skip) .nil), rfl⟩
    · have hdeclares : ((Settings.ofList settings).entries.any fun t => t.name = skip) = true := by
        rw [hany]
        simpa using hnone
      rw [if_neg hnone, if_pos hdeclares]
      exact ⟨settings, hsettings, rfl⟩

namespace Installer

variable {budgets : Budgets} {units : List UnitSpec} {components : List Component}
  {settings : List Setting} {c : Catalog} {s : Setting} {i j : Installer}

/-- To merge what components need is to put in what is declared, one after the other. -/
theorem foldl_merge_eq_insertAll (hc : Component.Realize budgets units components)
    (ss : Settings) :
    ∃ settings, List.Forall₂ (fun d s => Declaration.toSetting d = .ok s)
        (Catalog.declarationsOf units) settings ∧
      components.foldl (fun ss c => ss.merge c.needed.clearShared) ss = ss.insertAll settings := by
  induction hc generalizing ss with
  | nil => exact ⟨[], .nil, rfl⟩
  | @cons u component units components hspec _ ih =>
    obtain ⟨first, hfirst, hneeded⟩ := Component.needed_eq_ofList hspec
    obtain ⟨others, hothers, hfold⟩ := ih (ss.insertAll first)
    refine ⟨first ++ others, ?_, ?_⟩
    · rw [Catalog.declarationsOf, List.flatMap_cons]
      exact List.rel_append (List.forall₂_map_left_iff.mpr hfirst) hothers
    · rw [List.foldl_cons, Component.clearShared_needed hspec, hneeded, Settings.merge_ofList,
        hfold, Settings.insertAll_append]

theorem gathered_eq_ofList (hc : Component.Realize budgets units components) :
    ∃ settings, List.Forall₂ (fun d s => Declaration.toSetting d = .ok s)
        (Catalog.declarationsOf units) settings ∧
      gathered components = Settings.ofList settings :=
  foldl_merge_eq_insertAll hc ∅

/-! ### What is gathered -/

/-- The settings are those that a catalog declares, and none of them is given. -/
structure Gathers (c : Catalog) (ss : Settings) : Prop where
  /-- Each name and scope is where it is declared first, and nowhere else. -/
  keys : ss.entries.map Setting.key = (c.declarations.map Declaration.key).eraseDups
  /-- The ids of the scopes are enough to tell them apart. -/
  distinct : ss.keys.Nodup
  /-- Each setting has the default and the description of its last declaration. -/
  last : ∀ s ∈ ss.entries, ∃ d, c.last? s.key = some d ∧ d.toSetting = .ok s
  kinds : ∀ s ∈ ss.entries, s.scope = .shared → ∀ d ∈ c.declarations, d.key = s.key →
    d.spec.kind = s.kind
  /-- A private setting is declared by its own unit and by no other one. -/
  own : ∀ s ∈ ss.entries, ∀ id, s.scope = .unit id → ∃ u ∈ c.units, u.id = id ∧
    ∀ d ∈ c.declarations, d.key = s.key → d.unit = u
  pending : ∀ s ∈ ss.entries, s.isValid = false ∧ s.value = .zero s.kind

theorem keys_of_declarations
    (h : List.Forall₂ (fun d s => Declaration.toSetting d = .ok s) c.declarations settings) :
    (Settings.ofList settings).entries.map Setting.key =
      (c.declarations.map Declaration.key).eraseDups := by
  have hkeys : List.Forall₂ Eq (c.declarations.map Declaration.key) (settings.map Setting.key) := by
    rw [List.forall₂_map_left_iff, List.forall₂_map_right_iff]
    exact h.imp fun d s hds => (Declaration.key_of_toSetting hds).symm
  rw [List.forall₂_eq_eq_eq] at hkeys
  rw [Settings.map_key_ofList, hkeys]

theorem last?_of_declarations
    (h : List.Forall₂ (fun d s => Declaration.toSetting d = .ok s) c.declarations settings)
    (hs : s ∈ (Settings.ofList settings).entries) :
    ∃ d, c.last? s.key = some d ∧ d.toSetting = .ok s := by
  have hfound := (Settings.keyed_ofList settings).find?_of_mem hs
  rw [Settings.find?_ofList, Settings.find?] at hfound
  have hrel := rel_find?_of_forall₂ (p := fun d => d.key = s.key)
    (q := fun t => t.name = s.name && t.scope = s.scope) (List.rel_reverse h) (by
      intro d t hdt
      rw [← Declaration.key_of_toSetting hdt]
      simp [Setting.key])
  rw [hfound] at hrel
  rw [Catalog.last?]
  generalize List.find? _ c.declarations.reverse = last at hrel ⊢
  cases hrel with
  | some hds => exact ⟨_, rfl, hds⟩

theorem distinct_of_named {ss : Settings} (h : ss.Keyed)
    (hnamed : ∀ s ∈ ss.entries, s.scope ≠ .unit "") : ss.keys.Nodup := by
  refine h.of_map.map_on fun s hs t ht heq => ?_
  obtain ⟨hname, hid⟩ := Prod.mk.inj heq
  have hscope : s.scope = t.scope := Scope.eq_of_id_eq (hnamed s hs) (hnamed t ht) hid
  exact List.inj_on_of_nodup_map h hs ht (Prod.ext hname hscope)

theorem gathers_of_declarations (hcheck : c.check = .ok ())
    (h : List.Forall₂ (fun d s => Declaration.toSetting d = .ok s) c.declarations settings) :
    Gathers c (Settings.ofList settings) where
  keys := keys_of_declarations h
  distinct := by
    apply distinct_of_named (Settings.keyed_ofList settings)
    intro s hs hscope
    obtain ⟨d, hlast, hds⟩ := last?_of_declarations h hs
    obtain ⟨hd, hkey⟩ := Catalog.last?_eq_some hlast
    have hnamed := (Catalog.check_eq_ok_iff.mp hcheck).coherent.named d.unit
      (Catalog.mem_declarations.mp hd).1
    exact hnamed (Declaration.id_of_key hkey hscope)
  last s hs := last?_of_declarations h hs
  kinds s hs hscope d hd hkey := by
    obtain ⟨e, hlast, hes⟩ := last?_of_declarations h hs
    obtain ⟨he, hkey'⟩ := Catalog.last?_eq_some hlast
    rw [(SettingSpec.toSetting_eq_ok hes).2.2.1]
    exact Catalog.kind_of_declarations hcheck hd he (Declaration.isPrivate_of_key hkey hscope)
      (Declaration.isPrivate_of_key hkey' hscope) (congrArg Prod.fst (hkey.trans hkey'.symm))
  own s hs id hscope := by
    obtain ⟨d, hlast, -⟩ := last?_of_declarations h hs
    obtain ⟨hd, hkey⟩ := Catalog.last?_eq_some hlast
    have hdUnit := (Catalog.mem_declarations.mp hd).1
    refine ⟨d.unit, hdUnit, Declaration.id_of_key hkey hscope, fun e he hkey' => ?_⟩
    have heUnit := (Catalog.mem_declarations.mp he).1
    have hid : e.unit.id = d.unit.id :=
      (Declaration.id_of_key hkey' hscope).trans (Declaration.id_of_key hkey hscope).symm
    exact List.inj_on_of_nodup_map (c.ids_nodup hcheck) heUnit hdUnit hid
  pending s hs := by
    obtain ⟨d, -, hds⟩ := last?_of_declarations h hs
    have hpending := (SettingSpec.toSetting_eq_ok hds).2.2.2
    rw [Setting.isValid, Setting.value, hpending]
    exact ⟨rfl, rfl⟩

theorem gather_of_components (h : i.components = j.components) :
    (gather i).settings = (gather j).settings :=
  congrArg gathered h

/-- A checked catalog has an installer, whose settings are those that the catalog declares.  They
are the same when they are gathered again, also after they have been resolved. -/
theorem gathers_of_check (h : c.check = .ok ()) :
    ∃ i, ofCatalog c = .ok i ∧ Gathers c i.gather.settings ∧
      i.gather.gather.settings = i.gather.settings ∧
      ∀ chain, (gather { i.gather with
        settings := (i.gather.settings.resolve chain).settings }).settings = i.gather.settings := by
  obtain ⟨i, hi⟩ := exists_ofCatalog h
  obtain ⟨settings, hsettings, hgathered⟩ := gathered_eq_ofList (realize_of_ofCatalog hi)
  refine ⟨i, hi, ?_, gather_of_components rfl, fun chain => gather_of_components rfl⟩
  show Gathers c (gathered i.components)
  rw [hgathered]
  exact gathers_of_declarations h hsettings

/-- Two units with a shared setting; one can be skipped, and one has a private setting besides. -/
def townhouse : Catalog :=
  { units :=
      [{ id := "web", kind := .manifest, manifest := some "web.yaml", skipSetting := some "skip_web"
         settings := [{ name := "domain", kind := .string, default := some (.string "a.org") }] },
       { id := "mail", kind := .manifest, manifest := some "mail.yaml"
         settings :=
           [{ name := "domain", kind := .string, isPrivate := true },
            { name := "domain", kind := .string, default := some (.string "b.org") }] }] }

theorem gathers_of_check_townhouse :
    townhouse.check = .ok () ∧ ∃ i, ofCatalog townhouse = .ok i ∧
      i.gather.settings.entries.map Setting.key =
        [("domain", .shared), ("skip_web", .shared), ("domain", .unit "mail")] ∧
      ∃ s ∈ i.gather.settings.entries, s.key = ("domain", .shared) ∧
        s.default = .string "b.org" := by
  obtain ⟨i, hi, hgathers, -⟩ := @gathers_of_check townhouse rfl
  refine ⟨rfl, i, hi, hgathers.keys.trans rfl, ?_⟩
  obtain rfl := Except.ok.inj hi
  exact ⟨_, List.mem_cons_self .., rfl, rfl⟩

end Installer

end Groundwork
