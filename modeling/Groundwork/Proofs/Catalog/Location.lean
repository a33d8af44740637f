import Mathlib.Data.List.Forall2
import Groundwork.Catalog.File
import Groundwork.FileTree
import Groundwork.Proofs.Text.Search
import Groundwork.Proofs.Text.Utf8
import Groundwork.Proofs.Traversal

/-!
# Manifests as seen from the file

A catalog that is read from a file is the one that its text describes, with some of its manifests
seen from the directory of the file: those that are neither absolute paths nor urls (`Fixed`).
Nothing else about it changes (`SeenFrom`, `located_iff`), so it keeps the rules that the text was
checked by (`check_locate`).

`parseFile_located` puts this together, for whatever comes of reading the file.
-/

namespace Groundwork

/-! ### Beginnings of texts -/

namespace Text

theorem startsWith_iff {s start : String} :
    startsWith s start = true ↔ ∃ rest, s = start ++ rest := by
  rw [startsWith, List.isPrefixOf_iff_prefix]
  constructor
  · rintro ⟨rest, hrest⟩
    refine ⟨String.ofList rest, String.toList_injective ?_⟩
    rw [String.toList_append, String.toList_ofList, hrest]
  · rintro ⟨rest, rfl⟩
    rw [String.toList_append]
    exact List.prefix_append _ _

end Text

namespace Path

theorem isAbsolute_iff {p : String} : isAbsolute p = true ↔ ∃ rest, p = "/" ++ rest :=
  Text.startsWith_iff

/-- A bare name has no directory in front of it. -/
theorem directory?_of_bare {p : String} (hbare : '/' ∉ p.toList) (hsome : p ≠ "") :
    directory? p = some "" := by
  have hrelative : isAbsolute p = false := by
    apply Bool.eq_false_iff.mpr
    rintro habsolute
    obtain ⟨rest, rfl⟩ := isAbsolute_iff.mp habsolute
    exact hbare (by simp)
  have hpieces : pieces p = [p] := by
    rw [pieces, hrelative, Text.split, Text.splitChars_of_not_mem hbare]
    simp
  have hkept : dropUnnamed false [p] = [p] := by
    rw [dropUnnamed, if_neg]
    simp [hsome]
  rw [directory?, hpieces, hrelative]
  simp only [List.reverse_singleton, hkept]
  rfl

theorem joined_empty (p : String) : joined "" p = p := by
  have hempty : isAbsolute p = true ∨ "".isEmpty = true := Or.inr rfl
  rw [joined, if_pos hempty]

end Path

/-! ### Manifests -/

namespace Catalog

variable {directory : String} {c c₀ : Catalog} {u v : UnitSpec}

/-- The manifest is the same wherever the catalog lies: it is an absolute path or a url. -/
def Fixed (manifest : String) : Prop :=
  ∃ rest, manifest = "/" ++ rest ∨ manifest = "http://" ++ rest ∨ manifest = "https://" ++ rest

theorem fixed_iff {manifest : String} :
    Fixed manifest ↔ (Path.isAbsolute manifest || isUrl manifest) = true := by
  rw [Bool.or_eq_true, isUrl, Bool.or_eq_true, Path.isAbsolute_iff, Text.startsWith_iff,
    Text.startsWith_iff, Fixed, exists_or, exists_or]

/-- The second unit is the first one, with its manifest seen from the directory unless it is
fixed. -/
structure SeenFrom (directory : String) (u v : UnitSpec) : Prop where
  others : v = { u with manifest := v.manifest }
  absent : u.manifest = none → v.manifest = none
  kept : ∀ manifest, u.manifest = some manifest → Fixed manifest → v.manifest = some manifest
  joined : ∀ manifest, u.manifest = some manifest → ¬Fixed manifest →
    v.manifest = some (Path.joined directory manifest)

/-- The unit as it is seen from a directory. -/
def relocated (directory : String) (u : UnitSpec) : UnitSpec :=
  { u with manifest := u.manifest.map (locateManifest directory) }

theorem locate_eq (directory : String) (c : Catalog) :
    locate directory c = { c with units := c.units.map (relocated directory) } := rfl

theorem seenFrom_iff : SeenFrom directory u v ↔ relocated directory u = v := by
  constructor
  · intro h
    have hmanifest : v.manifest = u.manifest.map (locateManifest directory) := by
      rcases hu : u.manifest with _ | manifest
      · exact h.absent hu
      · rw [Option.map_some, locateManifest]
        split
        · exact h.kept manifest hu (fixed_iff.mpr ‹_›)
        · exact h.joined manifest hu (mt fixed_iff.mp ‹_›)
    rw [h.others, hmanifest]
    rfl
  · rintro rfl
    refine ⟨rfl, ?_, ?_, ?_⟩
    · intro hu
      rw [relocated, hu, Option.map_none]
    · intro manifest hu hfixed
      rw [relocated, hu, Option.map_some, locateManifest, if_pos (fixed_iff.mp hfixed)]
    · intro manifest hu hfixed
      rw [relocated, hu, Option.map_some, locateManifest, if_neg (mt fixed_iff.mpr hfixed)]

/-- The second catalog is the first one with the units seen from the directory. -/
structure Located (directory : String) (c₀ c : Catalog) : Prop where
  budgets : c.budgets = c₀.budgets
  units : List.Forall₂ (SeenFrom directory) c₀.units c.units

theorem located_iff : Located directory c₀ c ↔ locate directory c₀ = c := by
  have hunits : List.Forall₂ (SeenFrom directory) c₀.units c.units ↔
      c₀.units.map (relocated directory) = c.units := by
    have hseen : SeenFrom directory = fun u v => relocated directory u = v := by
      funext u v
      exact propext seenFrom_iff
    rw [hseen, ← List.forall₂_map_left_iff (f := relocated directory) (R := Eq), List.forall₂_eq_eq_eq]
  constructor
  · rintro ⟨hbudgets, hforall⟩
    rw [locate_eq, hunits.mp hforall, ← hbudgets]
  · rintro rfl
    exact ⟨rfl, hunits.mpr rfl⟩

/-- Seen from no directory, everything stays as it is. -/
theorem locate_empty (c : Catalog) : locate "" c = c := by
  have hsame : relocated "" = id := by
    funext u
    have hmanifest : locateManifest "" = id := by
      funext manifest
      rw [locateManifest, Path.joined_empty, ite_self, id]
    rw [relocated, hmanifest, Option.map_id_fun]
    rfl
  rw [locate_eq, hsame, List.map_id]

/-! ### The rules -/

theorem checkSource_relocated (u : UnitSpec) :
    checkSource (relocated directory u) = checkSource u := by
  have hmanifest : (relocated directory u).manifest.isNone = u.manifest.isNone :=
    Option.isNone_map
  rw [checkSource, checkSource, hmanifest]
  rfl

theorem checkUnits_relocated (ids : List String) (shared : SharedKinds) (units : List UnitSpec) :
    checkUnits ids shared (units.map (relocated directory)) = checkUnits ids shared units := by
  induction units generalizing ids shared with
  | nil => rfl
  | cons u rest ih =>
    rw [List.map_cons, checkUnits, checkUnits, checkSource_relocated]
    simp only [ih]
    rfl

theorem checkSkips_relocated (shared : SharedKinds) (units : List UnitSpec) :
    checkSkips shared (units.map (relocated directory)) = checkSkips shared units := by
  induction units with
  | nil => rfl
  | cons u rest ih =>
    rw [List.map_cons, checkSkips, checkSkips, ih]
    rfl

/-- The rules do not depend on where a manifest lies. -/
theorem check_locate (directory : String) (c : Catalog) : (locate directory c).check = c.check := by
  simp only [check, locate_eq, checkUnits_relocated, checkSkips_relocated]

theorem check_of_parse {text : String} (h : parse text = .ok c) : c.check = .ok () := by
  unfold parse at h
  split at h
  · cases h
  · split at h
    · cases h
      assumption
    · cases h

/-! ### Files -/

/-- The directory that the manifests of a catalog at a path are seen from. -/
def directoryOf (path : String) : String :=
  (Path.directory? path).getD "."

theorem parseFile_eq_ok_iff {path : String} {content : Except IoFault String} :
    parseFile path content = .ok c ↔
      ∃ text c₀, content = .ok text ∧ parse text = .ok c₀ ∧ Located (directoryOf path) c₀ c := by
  cases content with
  | error fault => simp [parseFile]
  | ok text =>
    show (parse text).map (locate (directoryOf path)) = _ ↔ _
    rw [map_eq_ok]
    simp only [located_iff, Except.ok.injEq]
    constructor
    · rintro ⟨c₀, hparse, hlocate⟩
      exact ⟨text, c₀, rfl, hparse, hlocate⟩
    · rintro ⟨_, c₀, rfl, hparse, hlocate⟩
      exact ⟨c₀, hparse, hlocate⟩

end Catalog

/-- The text of a file is what its bytes write in UTF-8. -/
theorem FileTree.readText_eq_ok_iff {t : FileTree} {path text : String} :
    t.readText path = .ok text ↔ t.read path = .ok (Text.utf8Bytes text) := by
  unfold readText
  rcases t.read path with fault | bytes
  · simp
  · dsimp only
    rw [Except.ok.injEq, ← Text.decode?_eq_some_iff]
    rcases Text.decode? bytes with _ | s
    · simp
    · simp

namespace Catalog

/-- A file gives a catalog if, and only if, it can be read and its text gives one; a file of a tree
can be read if its bytes are those of a text in UTF-8.  The catalog has the budgets of the one that
the text gives, and the same units in the same order, but for the manifests that are neither absolute
paths nor urls: they are joined to the directory of the file.  It still keeps the rules.  If the path
is a bare name, there is nothing to be joined, and nothing changes at all. -/
theorem parseFile_located (path : String) (content : Except IoFault String) :
    ((∃ c, parseFile path content = .ok c) ↔
      ∃ text c₀, content = .ok text ∧ parse text = .ok c₀) ∧
    (∀ text c₀ c, content = .ok text → parse text = .ok c₀ → parseFile path content = .ok c →
      Located (directoryOf path) c₀ c ∧ c.check = .ok () ∧
        ('/' ∉ path.toList → path ≠ "" → c = c₀)) ∧
    ∀ (t : FileTree) (text : String),
      t.readText path = .ok text ↔ t.read path = .ok (Text.utf8Bytes text) := by
  refine ⟨⟨?_, ?_⟩, ?_, fun t text => FileTree.readText_eq_ok_iff⟩
  · rintro ⟨c, hc⟩
    obtain ⟨text, c₀, hcontent, hparse, -⟩ := parseFile_eq_ok_iff.mp hc
    exact ⟨text, c₀, hcontent, hparse⟩
  · rintro ⟨text, c₀, hcontent, hparse⟩
    exact ⟨_, parseFile_eq_ok_iff.mpr ⟨text, c₀, hcontent, hparse, located_iff.mpr rfl⟩⟩
  · intro text c₀ c hcontent hparse hc
    obtain ⟨text', c₁, hcontent', hparse', hlocated⟩ := parseFile_eq_ok_iff.mp hc
    cases hcontent.symm.trans hcontent'
    cases hparse.symm.trans hparse'
    refine ⟨hlocated, ?_, fun hbare hsome => ?_⟩
    · rw [← located_iff.mp hlocated, check_locate]
      exact check_of_parse hparse
    · rw [← located_iff.mp hlocated, directoryOf, Path.directory?_of_bare hbare hsome]
      exact locate_empty c₀

/-- A chart, and three manifests of which only the first is seen from the file. -/
def siteText : String :=
  "units:\n" ++
    "- id: web\n  chart: nginx\n" ++
    "- id: near\n  kind: manifest\n  manifest: m/near.yaml\n" ++
    "- id: far\n  kind: manifest\n  manifest: https://example.org/far.yaml\n" ++
    "- id: fixed\n  kind: manifest\n  manifest: /srv/fixed.yaml\n"

/-- What the text describes. -/
def site : Catalog where
  units :=
    [{ id := "web", chart := some "nginx" },
      { id := "near", kind := .manifest, manifest := some "m/near.yaml" },
      { id := "far", kind := .manifest, manifest := some "https://example.org/far.yaml" },
      { id := "fixed", kind := .manifest, manifest := some "/srv/fixed.yaml" }]

theorem parseFile_located_site :
    ∃ c, parseFile "site/platform.yaml" (.ok siteText) = .ok c ∧ Located "site" site c ∧
      c.check = .ok () ∧
      c.units.map UnitSpec.manifest = [none, some "site/m/near.yaml",
        some "https://example.org/far.yaml", some "/srv/fixed.yaml"] := by
  have hdirectory : directoryOf "site/platform.yaml" = "site" := by decide +kernel
  have hparse : parse siteText = .ok site := by
    have hread : (parse siteText).toOption = some site := by decide +kernel
    rcases hresult : parse siteText with e | c <;> rw [hresult] at hread
    · cases hread
    · rw [Option.some.inj hread]
  obtain ⟨hok, hlocated, -⟩ := parseFile_located "site/platform.yaml" (.ok siteText)
  obtain ⟨c, hc⟩ := hok.mpr ⟨siteText, site, rfl, hparse⟩
  obtain ⟨hsite, hcheck, -⟩ := hlocated siteText site c rfl hparse hc
  rw [hdirectory] at hsite
  refine ⟨c, hc, hsite, hcheck, ?_⟩
  rw [← located_iff.mp hsite]
  decide +kernel

end Catalog

end Groundwork
