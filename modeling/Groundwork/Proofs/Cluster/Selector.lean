import Groundwork.Cluster.Selector
import Groundwork.Proofs.Table
import Groundwork.Proofs.Text.Blank
import Groundwork.Proofs.Text.Search

/-!
# Selectors as conjunctions

A selector asks for all of its terms, and for nothing else.  Everything follows from two equations:
the terms of two selectors with a comma between them are the terms of both (`terms_append_comma`),
and what has no comma is one term, or none if it is blank (`mem_terms_of_not_mem`).  A term is then
read by what it says: a name (`accepts_named`), or a name with a value behind the first equals sign
(`accepts_valued`).

`Conjunctive` lists the laws, and `accepts_conjunctive` says that matching obeys them.
-/

namespace Groundwork.Cluster.Selector

variable {s t term : String} {labels more : Option Labels}

/-! ### The terms of a selector -/

theorem terms_append_comma (s t : String) : terms (s ++ "," ++ t) = terms s ++ terms t := by
  have hsplit : Text.split ',' (s ++ "," ++ t) = Text.split ',' s ++ Text.split ',' t := by
    simp [Text.split, Text.splitChars_append_mark]
  rw [terms, hsplit, List.map_append, List.filter_append, terms, terms]

/-- What has no comma is one term, or none if it is blank. -/
theorem mem_terms_of_not_mem (h : ',' ∉ s.toList) :
    term ∈ terms s ↔ term ≠ "" ∧ Text.trim s = term := by
  have hsplit : Text.split ',' s = [s] := by
    simp [Text.split, Text.splitChars_of_not_mem h]
  rw [terms, hsplit, List.map_singleton, List.mem_filter, List.mem_singleton, eq_comm, and_comm]
  simp

/-- The terms of comma-separated texts are those that are not blank, without the blanks around
them. -/
theorem mem_terms_join {ps : List String} (h : ∀ p ∈ ps, ',' ∉ p.toList) :
    term ∈ terms (Text.join "," ps) ↔ term ≠ "" ∧ ∃ p ∈ ps, Text.trim p = term := by
  induction ps with
  | nil =>
    have hempty : terms (Text.join "," []) = [] := by decide
    simp [hempty]
  | cons p rest ih =>
    obtain ⟨hp, hrest⟩ := List.forall_mem_cons.mp h
    cases rest with
    | nil => simpa [Text.join] using mem_terms_of_not_mem hp
    | cons q rest =>
      have hjoin : Text.join "," (p :: q :: rest) = p ++ "," ++ Text.join "," (q :: rest) := rfl
      rw [hjoin, terms_append_comma, List.mem_append,
        or_congr (mem_terms_of_not_mem hp) (ih hrest), ← and_or_left]
      simp only [List.exists_mem_cons_iff]

/-! ### What is accepted -/

theorem accepts_iff : accepts s labels = true ↔ ∀ term ∈ terms s, holds labels term = true := by
  rw [accepts, List.all_eq_true]

/-- Only the terms count, not in which order and how often they come. -/
theorem accepts_congr (h : ∀ term, term ∈ terms s ↔ term ∈ terms t) (labels : Option Labels) :
    accepts s labels = accepts t labels := by
  rw [Bool.eq_iff_iff, accepts_iff, accepts_iff]
  simp only [h]

theorem accepts_of_blank (h : ∀ c ∈ s.toList, Text.isBlank c = true) :
    accepts s labels = true := by
  have hcomma : ',' ∉ s.toList := fun hmem => absurd (h _ hmem) (by decide)
  rw [accepts_iff]
  intro term hterm
  obtain ⟨hne, rfl⟩ := (mem_terms_of_not_mem hcomma).mp hterm
  exact absurd (Text.trim_of_blank h) hne

theorem accepts_of_not_mem (hcomma : ',' ∉ s.toList) (hterm : Text.trim s ≠ "") :
    accepts s labels = true ↔ holds labels (Text.trim s) = true := by
  rw [accepts_iff]
  simp only [mem_terms_of_not_mem hcomma, and_imp]
  constructor
  · exact fun h => h _ hterm rfl
  · rintro h term - rfl
    exact h

/-- Without an equals sign a term asks for a label of its name. -/
theorem accepts_named (hcomma : ',' ∉ s.toList) (hmark : '=' ∉ s.toList)
    (hterm : Text.trim s ≠ "") :
    accepts s labels = true ↔ ∃ l, labels = some l ∧ Table.has l (Text.trim s) = true := by
  have hcut : Text.cut? '=' (Text.trim s) = none := by
    have hmem : '=' ∉ Text.trimChars s.toList :=
      fun h => hmark ((Text.trimChars_sublist _).subset h)
    rw [Text.cut?, Text.trim, String.toList_ofList, Text.cutChars_of_not_mem hmem]
    rfl
  rw [accepts_of_not_mem hcomma hterm, holds, hcut, Option.any_eq_true]

/-- A term is cut at its first equals sign, and the blanks around both parts do not count. -/
theorem accepts_valued {key value : String} (hkey : ',' ∉ key.toList) (hmark : '=' ∉ key.toList)
    (hvalue : ',' ∉ value.toList) :
    accepts (key ++ "=" ++ value) labels = true ↔
      ∃ l, labels = some l ∧ Table.get? l (Text.trim key) = some (Text.trim value) := by
  have hchars : (key ++ "=" ++ value).toList = key.toList ++ '=' :: value.toList := by simp
  have hcomma : ',' ∉ (key ++ "=" ++ value).toList := by
    rw [hchars]
    simp [hkey, hvalue]
  have htrim : Text.trimChars (key ++ "=" ++ value).toList =
      key.toList.dropWhile Text.isBlank ++ '=' :: Text.dropBlankEnd value.toList := by
    rw [hchars, Text.trimChars_append_cons (by decide)]
  have hterm : Text.trim (key ++ "=" ++ value) ≠ "" := by
    rw [Text.trim, htrim]
    simp
  have hcut : Text.cut? '=' (Text.trim (key ++ "=" ++ value)) =
      some (String.ofList (key.toList.dropWhile Text.isBlank),
        String.ofList (Text.dropBlankEnd value.toList)) := by
    have hfront : '=' ∉ key.toList.dropWhile Text.isBlank :=
      fun h => hmark ((List.dropWhile_sublist _).subset h)
    rw [Text.cut?, Text.trim, String.toList_ofList, htrim, Text.cutChars_append_mark hfront]
    rfl
  -- trimming both parts once more removes what is blank next to the equals sign
  rw [accepts_of_not_mem hcomma hterm, holds, hcut]
  simp only [Text.trim, String.toList_ofList, Text.trimChars_dropWhile,
    Text.trimChars_dropBlankEnd, beq_iff_eq, Option.bind_eq_some_iff]

/-! ### More labels -/

/-- Every label is still there, with its value: if labels were added, then under new keys. -/
def Grown (labels more : Option Labels) : Prop :=
  ∀ l, labels = some l → ∃ m, more = some m ∧
    ∀ key value, Table.get? l key = some value → Table.get? m key = some value

theorem holds_mono (hgrown : Grown labels more) (h : holds labels term = true) :
    holds more term = true := by
  rw [holds] at h ⊢
  split at h
  · rw [beq_iff_eq, Option.bind_eq_some_iff] at h
    obtain ⟨l, hl, hvalue⟩ := h
    obtain ⟨m, rfl, hkept⟩ := hgrown l hl
    rw [beq_iff_eq]
    exact hkept _ _ hvalue
  · rw [Option.any_eq_true] at h
    obtain ⟨l, hl, hhas⟩ := h
    obtain ⟨m, rfl, hkept⟩ := hgrown l hl
    obtain ⟨value, hvalue⟩ := Table.exists_get?_of_has hhas
    rw [Option.any_some, Table.has_eq_isSome_get?, hkept _ _ hvalue]
    rfl

/-! ### The laws -/

/-- What makes a way of matching selectors against labels, which may be absent, a conjunction of
terms. -/
structure Conjunctive (accept : String → Option Labels → Bool) : Prop where
  /-- A comma stands for "and", whatever is in front of it and behind it. -/
  comma (s t : String) (labels : Option Labels) :
    accept (s ++ "," ++ t) labels = true ↔ accept s labels = true ∧ accept t labels = true
  /-- Blanks ask for nothing. -/
  blank (s : String) (labels : Option Labels) (hblank : ∀ c ∈ s.toList, Text.isBlank c = true) :
    accept s labels = true
  /-- A term without an equals sign asks for a label of that name. -/
  named (name : String) (labels : Option Labels) (hcomma : ',' ∉ name.toList)
    (hmark : '=' ∉ name.toList) (hname : Text.trim name ≠ "") :
    accept name labels = true ↔ ∃ l, labels = some l ∧ Table.has l (Text.trim name) = true
  /-- A term with an equals sign asks for the value behind the first one under the key in front of
  it.  Both may be empty, and the value may have further equals signs. -/
  valued (key value : String) (labels : Option Labels) (hkey : ',' ∉ key.toList)
    (hmark : '=' ∉ key.toList) (hvalue : ',' ∉ value.toList) :
    accept (key ++ "=" ++ value) labels = true ↔
      ∃ l, labels = some l ∧ Table.get? l (Text.trim key) = some (Text.trim value)
  /-- It makes no difference in which order terms come, how often, with which blanks around them, and
  with how many blank terms among them. -/
  alike (ps qs : List String) (labels : Option Labels) (hps : ∀ p ∈ ps, ',' ∉ p.toList)
    (hqs : ∀ q ∈ qs, ',' ∉ q.toList)
    (hterms : ∀ term ≠ "", (∃ p ∈ ps, Text.trim p = term) ↔ ∃ q ∈ qs, Text.trim q = term) :
    accept (Text.join "," ps) labels = accept (Text.join "," qs) labels
  /-- Labels that are added under new keys turn no match into a mismatch. -/
  grows (s : String) (labels more : Option Labels) (hgrown : Grown labels more)
    (h : accept s labels = true) : accept s more = true

/-- Selectors are conjunctions of their terms. -/
theorem accepts_conjunctive : Conjunctive accepts where
  comma s t labels := by
    rw [accepts, terms_append_comma, List.all_append, Bool.and_eq_true]
    rfl
  blank s labels hblank := accepts_of_blank hblank
  named name labels hcomma hmark hname := accepts_named hcomma hmark hname
  valued key value labels hkey hmark hvalue := accepts_valued hkey hmark hvalue
  alike ps qs labels hps hqs hterms := by
    apply accepts_congr
    intro term
    rw [mem_terms_join hps, mem_terms_join hqs]
    exact and_congr_right (hterms term)
  grows s labels more hgrown h := by
    rw [accepts_iff] at h ⊢
    exact fun term hterm => holds_mono hgrown (h term hterm)

example : accepts " app = web ,, tier ,a==b" (some [("app", "web"), ("a", "=b"), ("tier", "")]) =
    true := by decide

end Groundwork.Cluster.Selector
