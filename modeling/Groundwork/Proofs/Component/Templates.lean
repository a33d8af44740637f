import Mathlib.Data.List.TakeWhile
import Groundwork.Component.Template
import Groundwork.Proofs.Traversal

/-!
# How templates are cut and filled

A template is cut from left to right: the text in front of the leftmost reference, the reference,
and then what comes after it is cut in the same way (`Cut`).  Every template has one cut, and it is
the one by which templates are filled (`exists_cut`, `Cut.unique`).  So to fill a template is to
keep the text and to put in what the references stand for, once and without looking at it again;
if some of them stand for nothing, the first of these is the error (`fill_singlePass`).
-/

namespace Groundwork.Template

variable {name other unit template : String} {settings : Settings} {escape : String → String}
  {cs rest after tail : List Char}

/-! ### Where a test stops -/

section Stop

variable {α : Type} {p : α → Bool} {front : List α} {stop : α}

theorem takeWhile_stop (h : ∀ a ∈ front, p a = true) (hstop : ¬p stop = true) (back : List α) :
    (front ++ stop :: back).takeWhile p = front := by
  rw [List.takeWhile_append_of_pos h, List.takeWhile_cons_of_neg hstop, List.append_nil]

theorem dropWhile_stop (h : ∀ a ∈ front, p a = true) (hstop : ¬p stop = true) (back : List α) :
    (front ++ stop :: back).dropWhile p = stop :: back := by
  rw [List.dropWhile_append_of_pos h, List.dropWhile_cons_of_neg hstop]

end Stop

/-! ### References -/

/-- A name that can be referred to: ASCII letters, digits and underscores, at least one. -/
def IsName (name : String) : Prop :=
  name ≠ "" ∧ ∀ c ∈ name.toList, c.isAlphanum = true ∨ c = '_'

/-- The reference to a name, as it is written. -/
def spelled (name : String) : List Char :=
  '$' :: '\x7b' :: (name.toList ++ ['\x7d'])

/-- The characters begin with a reference. -/
def Leads (cs : List Char) : Prop :=
  ∃ name after, IsName name ∧ cs = spelled name ++ after

theorem spelled_append (name : String) (after : List Char) :
    spelled name ++ after = '$' :: '\x7b' :: (name.toList ++ '\x7d' :: after) := by
  simp [spelled]

theorem isNameChar_iff {c : Char} : isNameChar c = true ↔ c.isAlphanum = true ∨ c = '_' := by
  simp [isNameChar]

theorem IsName.isNameChar (h : IsName name) : ∀ c ∈ name.toList, isNameChar c = true :=
  fun c hc => isNameChar_iff.mpr (h.2 c hc)

theorem not_isNameChar_brace : ¬isNameChar '\x7d' = true := by
  decide

theorem readReference_spelled (h : IsName name) (after : List Char) :
    readReference (spelled name ++ after) = some (name.toList, after) := by
  have hne : name.toList.isEmpty = false := by
    rw [List.isEmpty_eq_false_iff]
    exact fun hnil => h.1 (String.toList_eq_nil_iff.mp hnil)
  rw [spelled_append, readReference]
  simp only [dropWhile_stop h.isNameChar not_isNameChar_brace,
    takeWhile_stop h.isNameChar not_isNameChar_brace, hne]
  rfl

theorem eq_spelled_of_readReference {found : List Char}
    (h : readReference cs = some (found, after)) :
    IsName (String.ofList found) ∧ cs = spelled (String.ofList found) ++ after := by
  unfold readReference at h
  split at h
  · rename_i rest
    split at h
    · rename_i tail hdrop
      split at h
      · cases h
      · rename_i hne
        cases h
        refine ⟨⟨?_, ?_⟩, ?_⟩
        · intro hempty
          apply hne
          rw [List.isEmpty_iff]
          simpa using congrArg String.toList hempty
        · intro c hc
          rw [String.toList_ofList] at hc
          exact isNameChar_iff.mp (List.mem_takeWhile_imp hc)
        · rw [spelled_append, String.toList_ofList, ← hdrop, List.takeWhile_append_dropWhile]
    · cases h
  · cases h

theorem readReference_eq_none_iff : readReference cs = none ↔ ¬Leads cs := by
  constructor
  · rintro hnone ⟨name, after, hname, rfl⟩
    rw [readReference_spelled hname] at hnone
    cases hnone
  · intro hnot
    rcases hread : readReference cs with _ | ⟨found, after⟩
    · rfl
    · exact absurd ⟨_, after, eq_spelled_of_readReference hread⟩ hnot

/-- Where a reference ends can be seen from its first characters on. -/
theorem spelled_inj {after' : List Char} (h : IsName name) (h' : IsName other)
    (heq : spelled name ++ after = spelled other ++ after') : name = other ∧ after = after' := by
  have hread := readReference_spelled h after
  rw [heq, readReference_spelled h'] at hread
  obtain ⟨hname, rfl⟩ := Prod.mk.inj (Option.some.inj hread)
  exact ⟨(String.toList_inj.mp hname).symm, rfl⟩

/-! ### Cuts -/

/-- A part of a template. -/
inductive Part where
  | text (cs : List Char)
  | reference (name : String)
  deriving DecidableEq

/-- No reference begins within `cs` where `rest` comes after it. -/
def Clear (cs rest : List Char) : Prop :=
  ∀ tail, tail <:+ cs → tail ≠ [] → ¬Leads (tail ++ rest)

/-- The template is cut into these parts: text up to the leftmost reference, the reference, and the
parts of what comes after it; or all of it is text. -/
inductive Cut : List Char → List Part → Prop where
  | text {cs : List Char} (clear : Clear cs []) : Cut cs [.text cs]
  | reference {cs rest : List Char} {name : String} {parts : List Part} (isName : IsName name)
      (clear : Clear cs (spelled name ++ rest)) (behind : Cut rest parts) :
      Cut (cs ++ (spelled name ++ rest)) (.text cs :: .reference name :: parts)

theorem leads_spelled (h : IsName name) (after : List Char) : Leads (spelled name ++ after) :=
  ⟨name, after, h, rfl⟩

theorem clear_nil (rest : List Char) : Clear [] rest :=
  fun _ htail hne => absurd (List.suffix_nil.mp htail) hne

theorem Clear.cons {c : Char} (hfront : ¬Leads (c :: (cs ++ rest))) (h : Clear cs rest) :
    Clear (c :: cs) rest := by
  intro tail htail hne
  rcases List.suffix_cons_iff.mp htail with rfl | htail
  · exact hfront
  · exact h tail htail hne

/-- References begin with a dollar sign. -/
theorem clear_of_dollar_not_mem (h : '$' ∉ cs) : Clear cs rest := by
  rintro tail htail hne ⟨name, after, -, heq⟩
  obtain ⟨c, tail, rfl⟩ := List.exists_cons_of_ne_nil hne
  rw [spelled_append] at heq
  obtain rfl : c = '$' := (List.cons.inj heq).1
  exact h (htail.subset (List.mem_cons_self ..))

/-- A text in which no reference begins ends where one does. -/
theorem Clear.eq_nil {front more : List Char} (h : Clear (front ++ more) rest) (hname : IsName name)
    (heq : spelled name ++ after = more ++ rest) : more = [] := by
  by_contra hne
  exact h more (List.suffix_append ..) hne (heq ▸ leads_spelled hname after)

/-- Two leftmost references of the same characters are at the same place. -/
theorem Clear.unique {front front' : List Char} (hname : IsName name) (hother : IsName other)
    (hfront : Clear front (spelled name ++ rest)) (hfront' : Clear front' (spelled other ++ after))
    (heq : front ++ (spelled name ++ rest) = front' ++ (spelled other ++ after)) :
    front = front' := by
  rcases List.append_eq_append_iff.mp heq with ⟨more, rfl, hrest⟩ | ⟨more, rfl, hrest⟩
  · rw [hfront'.eq_nil hname hrest, List.append_nil]
  · rw [hfront.eq_nil hother hrest, List.append_nil]

namespace Cut

variable {parts parts' : List Part}

theorem unique (h : Cut cs parts) (h' : Cut cs parts') : parts = parts' := by
  suffices hcuts : ∀ cs', Cut cs' parts' → cs = cs' → parts = parts' from hcuts cs h' rfl
  clear h'
  induction h generalizing parts' with
  | text hclear =>
    intro cs' h' heq
    cases h' with
    | text => rw [heq]
    | reference hname _ _ =>
      exact absurd (leads_spelled hname _)
        (by simpa using hclear _ ⟨_, heq.symm⟩ (by simp [spelled]))
  | reference hname hclear _ ih =>
    intro cs' h' heq
    cases h' with
    | text hclear' =>
      exact absurd (leads_spelled hname _)
        (by simpa using hclear' _ ⟨_, heq⟩ (by simp [spelled]))
    | reference hother hclear' hbehind =>
      obtain rfl := Clear.unique hname hother hclear hclear' heq
      obtain ⟨rfl, rfl⟩ := spelled_inj hname hother (List.append_cancel_left heq)
      rw [ih _ hbehind rfl]

/-- A character at which no reference begins belongs to the text in front. -/
theorem cons {c : Char} (hfront : ¬Leads (c :: cs)) (h : Cut cs parts) :
    ∃ text others, parts = .text text :: others ∧ Cut (c :: cs) (.text (c :: text) :: others) := by
  cases h with
  | text hclear => exact ⟨cs, [], rfl, .text (.cons (by simpa using hfront) hclear)⟩
  | @reference text rest name others hname hclear hbehind =>
    exact ⟨text, _, rfl, .reference hname (.cons hfront hclear) hbehind⟩

theorem isName_of_mem (h : Cut cs parts) (hmem : .reference name ∈ parts) : IsName name := by
  induction h with
  | text => simp at hmem
  | reference hname _ _ ih =>
    rcases List.mem_cons.mp hmem with hmem | hmem
    · cases hmem
    · rcases List.mem_cons.mp hmem with hmem | hmem
      · cases hmem
        exact hname
      · exact ih hmem

end Cut

/-- A part, character by character. -/
def Part.pieces : Part → List Piece
  | .text cs => cs.map .literal
  | .reference name => [.reference name]

/-- The pieces by which a template is filled are those of its cut. -/
theorem exists_cut (cs : List Char) :
    ∃ parts, Cut cs parts ∧ pieces cs = parts.flatMap Part.pieces := by
  fun_induction pieces cs with
  | case1 cs found after hread ih =>
    obtain ⟨hname, rfl⟩ := eq_spelled_of_readReference hread
    obtain ⟨parts, hcut, hpieces⟩ := ih
    exact ⟨_, .reference hname (clear_nil _) hcut, by rw [hpieces]; rfl⟩
  | case2 => exact ⟨_, .text (clear_nil _), rfl⟩
  | case3 c rest hread ih =>
    obtain ⟨parts, hcut, hpieces⟩ := ih
    obtain ⟨text, others, rfl, hcons⟩ := hcut.cons (readReference_eq_none_iff.mp hread)
    exact ⟨_, hcons, by rw [hpieces]; rfl⟩

theorem Cut.pieces_eq {parts : List Part} (h : Cut cs parts) :
    pieces cs = parts.flatMap Part.pieces := by
  obtain ⟨parts', hcut, hpieces⟩ := exists_cut cs
  rw [hpieces, h.unique hcut]

/-! ### Filling -/

/-- What the unit puts in for a name. -/
def textOf (escape : String → String) (settings : Settings) (unit name : String) :
    Option String :=
  (settings.get? name (some unit)).map fun s => escape s.value.text

/-- What a part becomes. -/
def Part.shown (text : String → Option String) : Part → List Char
  | .text cs => cs
  | .reference name => ((text name).getD "").toList

/-- All references stand for something. -/
def Resolved (text : String → Option String) (parts : List Part) : Prop :=
  ∀ name, .reference name ∈ parts → (text name).isSome = true

section Filling

variable {text : String → Option String} {parts : List Part}

theorem fillPieces_literals (cs : List Char) (ps : List Piece) :
    fillPieces text (cs.map .literal ++ ps) = (fillPieces text ps).map (cs ++ ·) := by
  induction cs with
  | nil =>
    rw [List.map_nil, List.nil_append]
    cases fillPieces text ps <;> rfl
  | cons c cs ih =>
    rw [List.map_cons, List.cons_append, fillPieces, ih]
    cases fillPieces text ps <;> rfl

theorem resolved_cons_text : Resolved text (.text cs :: parts) ↔ Resolved text parts := by
  simp [Resolved]

theorem resolved_cons_reference :
    Resolved text (.reference name :: parts) ↔
      (text name).isSome = true ∧ Resolved text parts := by
  simp [Resolved]

/-- Parts that stand for something are filled, whatever comes after them. -/
theorem fillPieces_append (h : Resolved text parts) (ps : List Piece) :
    fillPieces text (parts.flatMap Part.pieces ++ ps) =
      (fillPieces text ps).map (parts.flatMap (Part.shown text) ++ ·) := by
  induction parts with
  | nil =>
    rw [List.flatMap_nil, List.nil_append]
    cases fillPieces text ps <;> rfl
  | cons part parts ih =>
    rw [List.flatMap_cons, List.flatMap_cons, List.append_assoc]
    cases part with
    | text cs =>
      rw [Part.pieces, fillPieces_literals, ih (resolved_cons_text.mp h)]
      cases fillPieces text ps <;> simp [Except.map, Part.shown]
    | reference name =>
      obtain ⟨hname, hparts⟩ := resolved_cons_reference.mp h
      obtain ⟨s, hs⟩ := Option.isSome_iff_exists.mp hname
      rw [Part.pieces, List.singleton_append, fillPieces, hs]
      simp only [ih hparts]
      cases fillPieces text ps <;> simp [Except.map, Part.shown, hs]

theorem fillPieces_of_resolved (h : Resolved text parts) :
    fillPieces text (parts.flatMap Part.pieces) = .ok (parts.flatMap (Part.shown text)) := by
  simpa [fillPieces, Except.map] using fillPieces_append h []

/-- The first name that stands for nothing is the error. -/
theorem fillPieces_of_unresolved {before after : List Part} (h : Resolved text before)
    (hname : text name = none) :
    fillPieces text ((before ++ .reference name :: after).flatMap Part.pieces) = .error name := by
  rw [List.flatMap_append, fillPieces_append h, List.flatMap_cons, Part.pieces,
    List.singleton_append, fillPieces, hname]
  rfl

theorem resolved_or_first (text : String → Option String) (parts : List Part) :
    Resolved text parts ∨ ∃ before name after, parts = before ++ .reference name :: after ∧
      Resolved text before ∧ text name = none := by
  induction parts with
  | nil => exact Or.inl fun _ hmem => nomatch hmem
  | cons part parts ih =>
    cases part with
    | text cs =>
      rcases ih with hparts | ⟨before, name, after, rfl, hbefore, hname⟩
      · exact Or.inl (resolved_cons_text.mpr hparts)
      · exact Or.inr ⟨.text cs :: before, name, after, rfl, resolved_cons_text.mpr hbefore, hname⟩
    | reference other =>
      rcases hother : text other with _ | s
      · exact Or.inr ⟨[], other, parts, rfl, fun _ hmem => (nomatch hmem), hother⟩
      · have hsome : (text other).isSome = true := by rw [hother]; rfl
        rcases ih with hparts | ⟨before, name, after, rfl, hbefore, hname⟩
        · exact Or.inl (resolved_cons_reference.mpr ⟨hsome, hparts⟩)
        · exact Or.inr ⟨.reference other :: before, name, after, rfl,
            resolved_cons_reference.mpr ⟨hsome, hbefore⟩, hname⟩

end Filling

section Fill

variable {parts before : List Part}

theorem resolved_textOf_iff :
    Resolved (textOf escape settings unit) parts ↔
      ∀ name, .reference name ∈ parts → (settings.get? name (some unit)).isSome = true := by
  simp only [Resolved, textOf, Option.isSome_map]

/-- Filling a template is filling its pieces. -/
theorem fill_eq_map (escape : String → String) (settings : Settings) (unit template : String) :
    fill escape settings unit template =
      ((fillPieces (textOf escape settings unit) (pieces template.toList)).map
        String.ofList).mapError SetupError.unknown := by
  unfold fill
  extract_lets text
  change _ = ((fillPieces text _).map _).mapError _
  cases fillPieces text (pieces template.toList) <;> rfl

theorem fill_of_resolved (h : Cut template.toList parts)
    (hresolved : Resolved (textOf escape settings unit) parts) :
    fill escape settings unit template =
      .ok (String.ofList (parts.flatMap (Part.shown (textOf escape settings unit)))) := by
  rw [fill_eq_map, h.pieces_eq, fillPieces_of_resolved hresolved]
  rfl

theorem fill_of_unresolved (h : Cut template.toList (before ++ .reference name :: parts))
    (hbefore : Resolved (textOf escape settings unit) before)
    (hname : textOf escape settings unit name = none) :
    fill escape settings unit template = .error (.unknown name) := by
  rw [fill_eq_map, h.pieces_eq, fillPieces_of_unresolved hbefore hname]
  rfl

/-- A template has one cut.  It can be filled if and only if the unit sees a setting under every
name that is referred to, and then its text is kept and each reference becomes the text of its
setting; otherwise the error is the first name under which there is none. -/
theorem fill_singlePass (escape : String → String) (settings : Settings)
    (unit template : String) :
    ∃ parts, (∀ parts', Cut template.toList parts' ↔ parts' = parts) ∧
      (∀ text, fill escape settings unit template = .ok text ↔
        (∀ name, .reference name ∈ parts → (settings.get? name (some unit)).isSome = true) ∧
          text = String.ofList (parts.flatMap (Part.shown (textOf escape settings unit)))) ∧
      ∀ e, fill escape settings unit template = .error e ↔
        ∃ before name after, parts = before ++ .reference name :: after ∧
          (∀ m, .reference m ∈ before → (settings.get? m (some unit)).isSome = true) ∧
          settings.get? name (some unit) = none ∧ e = .unknown name := by
  obtain ⟨parts, hcut, -⟩ := exists_cut template.toList
  refine ⟨parts, fun parts' => ⟨fun h => h.unique hcut, fun h => h ▸ hcut⟩, ?_, ?_⟩
  · intro text
    rw [← @resolved_textOf_iff unit settings escape]
    constructor
    · intro hfill
      rcases resolved_or_first (textOf escape settings unit) parts with
        hresolved | ⟨before, name, after, rfl, hbefore, hname⟩
      · rw [fill_of_resolved hcut hresolved] at hfill
        exact ⟨hresolved, (Except.ok.inj hfill).symm⟩
      · rw [fill_of_unresolved hcut hbefore hname] at hfill
        cases hfill
    · rintro ⟨hresolved, rfl⟩
      exact fill_of_resolved hcut hresolved
  · intro e
    constructor
    · intro hfill
      rcases resolved_or_first (textOf escape settings unit) parts with
        hresolved | ⟨before, name, after, rfl, hbefore, hname⟩
      · rw [fill_of_resolved hcut hresolved] at hfill
        cases hfill
      · rw [fill_of_unresolved hcut hbefore hname] at hfill
        exact ⟨before, name, after, rfl, resolved_textOf_iff.mp hbefore,
          Option.map_eq_none_iff.mp hname, (Except.error.inj hfill).symm⟩
    · rintro ⟨before, name, after, rfl, hbefore, hname, rfl⟩
      exact fill_of_unresolved hcut (resolved_textOf_iff.mpr hbefore)
        (Option.map_eq_none_iff.mpr hname)

/-- A value is not looked at for references, and what only looks like one is text. -/
example :
    fill id ⟨[{ name := "x", default := .string "", choice := .given (.string "$\x7bx\x7d") true }]⟩
      "web" "$\x7b$\x7bx\x7d-\x7d" = .ok "$\x7b$\x7bx\x7d-\x7d" := by
  decide +kernel

/-- A template without references is left as it is. -/
theorem fill_of_clear (h : Clear template.toList []) :
    fill escape settings unit template = .ok template := by
  rw [fill_of_resolved (.text h) (by simp [Resolved])]
  simp [Part.shown]

/-! ### Mentioning a name -/

/-- The template that is meant to be a reference to a name and nothing else. -/
def mention (name : String) : String :=
  String.ofList (spelled name)

theorem cut_around {front back : List Char} (h : IsName name) (hfront : '$' ∉ front)
    (hback : '$' ∉ back) :
    Cut (front ++ (spelled name ++ back)) [.text front, .reference name, .text back] :=
  .reference h (clear_of_dollar_not_mem hfront) (.text (clear_of_dollar_not_mem hback))

/-- A reference between two texts without dollar signs becomes the text of its setting. -/
theorem fill_around {front back : String} {s : Setting} (h : IsName name)
    (hfront : '$' ∉ front.toList) (hback : '$' ∉ back.toList)
    (hget : settings.get? name (some unit) = some s) :
    fill escape settings unit (front ++ mention name ++ back) =
      .ok (front ++ escape s.value.text ++ back) := by
  have htext : textOf escape settings unit name = some (escape s.value.text) := by
    rw [textOf, hget]
    rfl
  have hcut : Cut (front ++ mention name ++ back).toList
      [.text front.toList, .reference name, .text back.toList] := by
    simpa [mention] using cut_around h hfront hback
  rw [fill_of_resolved hcut]
  · simp [Part.shown, htext, String.ofList_append, String.append_assoc]
  · simp [Resolved, htext]

theorem fill_mention {s : Setting} (h : IsName name)
    (hget : settings.get? name (some unit) = some s) :
    fill escape settings unit (mention name) = .ok (escape s.value.text) := by
  simpa using @fill_around name unit settings escape "" "" s h (by simp) (by simp) hget

end Fill

end Groundwork.Template
