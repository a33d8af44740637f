import Groundwork.Proofs.Component.Building
import Groundwork.Proofs.Component.Templates
import Groundwork.Proofs.Settings.Keys
import Groundwork.Resolution

/-!
# Which settings can be referred to

A catalog may give its settings any names, but a reference is made of ASCII letters, digits and
underscores.  `fill_mention_resolved`: once settings are gathered and resolved, a unit that refers
to a setting it sees gets the text of its value if the name is made of these characters; otherwise
what it gets does not depend on the setting, and a name that does not itself look like part of a
reference is left as it was written.
-/

namespace Groundwork

/-- Under the name of a setting that it sees a unit finds one. -/
theorem Settings.exists_get?_of_mem_viewFor {ss : Settings} {unit : String} {s : Setting}
    (hs : s ∈ (ss.viewFor unit).entries) :
    ∃ found, (ss.viewFor unit).get? s.name (some unit) = some found := by
  have hsome : ∃ t, (ss.viewFor unit).find? s.name s.scope = some t := by
    by_contra hnone
    rw [← Option.ne_none_iff_exists', not_not, find?_eq_none_iff] at hnone
    exact hnone s hs ⟨rfl, rfl⟩
  obtain ⟨t, ht⟩ := hsome
  have hscope : s.scope = .shared ∨ s.scope = .unit unit := by
    simpa using (List.mem_filter.mp hs).2
  rw [get?_eq, Option.bind_some]
  rcases hscope with hshared | hown
  · rw [hshared] at ht
    rw [ht]
    cases (ss.viewFor unit).find? s.name (.unit unit) <;> exact ⟨_, rfl⟩
  · rw [hown] at ht
    rw [ht]
    exact ⟨t, rfl⟩

namespace Template

variable {name unit template : String} {settings settings' : Settings}
  {escape : String → String} {parts : List Part}

/-! ### What the setting of a name is worth to a template -/

theorem fillPieces_congr {text text' : String → Option String}
    (h : ∀ name, .reference name ∈ parts → text name = text' name) :
    fillPieces text (parts.flatMap Part.pieces) = fillPieces text' (parts.flatMap Part.pieces) := by
  induction parts with
  | nil => rfl
  | cons part parts ih =>
    have hrest := ih fun name hmem => h name (List.mem_cons_of_mem _ hmem)
    rw [List.flatMap_cons]
    cases part with
    | text cs => rw [Part.pieces, fillPieces_literals, fillPieces_literals, hrest]
    | reference name =>
      rw [Part.pieces, List.singleton_append, fillPieces, fillPieces, hrest,
        h name (List.mem_cons_self ..)]

/-- Only the settings that a template refers to matter. -/
theorem fill_congr (hcut : Cut template.toList parts)
    (h : ∀ name, .reference name ∈ parts →
      settings.get? name (some unit) = settings'.get? name (some unit)) :
    fill escape settings unit template = fill escape settings' unit template := by
  rw [fill_eq_map, fill_eq_map, hcut.pieces_eq, fillPieces_congr]
  intro name hmem
  rw [textOf, textOf, h name hmem]

/-! ### Names that cannot be referred to -/

/-- What cannot be a reference to the setting does not depend on it. -/
theorem fill_mention_congr (h : ¬IsName name)
    (hsame : ∀ other, other ≠ name →
      settings.get? other (some unit) = settings'.get? other (some unit)) :
    fill escape settings unit (mention name) = fill escape settings' unit (mention name) := by
  obtain ⟨parts, hcut, -⟩ := exists_cut (mention name).toList
  apply fill_congr hcut
  intro other hmem
  apply hsame
  rintro rfl
  exact h (hcut.isName_of_mem hmem)

/-- A name that cannot be referred to hides no reference either, if it is without dollar signs and
closing braces. -/
theorem clear_spelled (h : ¬IsName name) (hdollar : '$' ∉ name.toList)
    (hbrace : '\x7d' ∉ name.toList) : Clear (spelled name) [] := by
  apply Clear.cons
  · rintro ⟨other, after, hother, heq⟩
    have hsame : name.toList ++ '\x7d' :: [] = other.toList ++ '\x7d' :: after := by
      rw [spelled_append] at heq
      simpa using heq
    have hname : name.toList = other.toList :=
      ((List.append_cons_inj_of_notMem hbrace List.not_mem_nil).mp hsame).1
    exact h (String.toList_inj.mp hname ▸ hother)
  · apply clear_of_dollar_not_mem
    simp [hdollar]

theorem fill_mention_of_not_isName (h : ¬IsName name) (hdollar : '$' ∉ name.toList)
    (hbrace : '\x7d' ∉ name.toList) :
    fill escape settings unit (mention name) = .ok (mention name) := by
  apply fill_of_clear
  rw [mention, String.toList_ofList]
  exact clear_spelled h hdollar hbrace

/-- Once the settings of a checked catalog are gathered and resolved, a unit can refer to a setting
that it sees if and only if the name is made of ASCII letters, digits and underscores: then it gets
the text of the value; otherwise it gets the same whatever the setting holds, and if the name has no
dollar sign and no closing brace it gets the reference as it was written. -/
theorem fill_mention_resolved {catalog : Catalog} (hcheck : catalog.check = .ok ()) :
    ∃ i, Installer.ofCatalog catalog = .ok i ∧
      ∀ chain : List Source, ∀ spec ∈ catalog.units, ∀ seen : Settings,
        seen = (i.gather.settings.resolve chain).settings.viewFor spec.id →
        ∀ s ∈ seen.entries, ∃ found, seen.get? s.name (some spec.id) = some found ∧
          (IsName s.name → ∀ escape, fill escape seen spec.id (mention s.name) =
            .ok (escape found.value.text)) ∧
          (¬IsName s.name → ∀ escape,
            (∀ seen' : Settings, (∀ other, other ≠ s.name →
                seen.get? other (some spec.id) = seen'.get? other (some spec.id)) →
              fill escape seen spec.id (mention s.name) =
                fill escape seen' spec.id (mention s.name)) ∧
            ('$' ∉ s.name.toList → '\x7d' ∉ s.name.toList →
              fill escape seen spec.id (mention s.name) = .ok (mention s.name))) := by
  obtain ⟨i, hi⟩ := Installer.exists_ofCatalog hcheck
  refine ⟨i, hi, ?_⟩
  rintro chain spec - seen rfl s hs
  obtain ⟨found, hfound⟩ := Settings.exists_get?_of_mem_viewFor hs
  refine ⟨found, hfound, ?_, ?_⟩
  · intro hname escape
    exact fill_mention hname hfound
  · intro hname escape
    exact ⟨fun seen' hsame => fill_mention_congr hname hsame,
      fun hdollar hbrace => fill_mention_of_not_isName hname hdollar hbrace⟩

/-- A chart with a setting whose name has a hyphen. -/
def postOffice : Catalog :=
  { units :=
      [{ id := "mail", chart := some "mail", values := [("admin", "$\x7badmin-mail\x7d")]
         settings :=
           [{ name := "domain", kind := .string, default := some (.string "a.org") },
            { name := "admin-mail", kind := .string, default := some (.string "root@a.org") }] }] }

theorem fill_mention_resolved_domain :
    postOffice.check = .ok () ∧ ∃ i, Installer.ofCatalog postOffice = .ok i ∧
      fill id ((i.gather.settings.resolve [.defaults, .completeness]).settings.viewFor "mail")
        "mail" "$\x7bdomain\x7d" = .ok "a.org" := by
  obtain ⟨i, hi, hfill⟩ := @fill_mention_resolved postOffice rfl
  obtain rfl : _ = i := Except.ok.inj hi
  obtain ⟨found, hfound, hname, -⟩ := hfill [.defaults, .completeness] _ (List.mem_cons_self ..) _
    rfl _ (List.mem_cons_self ..)
  cases hfound
  have hdomain : IsName "domain" := by simp [IsName]
  exact ⟨rfl, _, rfl, hname hdomain id⟩

/-- The check accepts the name with a hyphen and the setting gets a value, yet the value of the
chart stays the reference as it was written. -/
theorem fill_mention_hyphen :
    postOffice.check = .ok () ∧ ∃ i, Installer.ofCatalog postOffice = .ok i ∧
      (i.gather.settings.resolve [.defaults, .completeness]).error = none ∧
      ∃ found,
        ((i.gather.settings.resolve [.defaults, .completeness]).settings.viewFor "mail").get?
          "admin-mail" (some "mail") = some found ∧
        found.value.text = "root@a.org" ∧
        fill id ((i.gather.settings.resolve [.defaults, .completeness]).settings.viewFor "mail")
          "mail" "$\x7badmin-mail\x7d" = .ok "$\x7badmin-mail\x7d" := by
  refine ⟨rfl, _, rfl, rfl, _, rfl, rfl, ?_⟩
  have hpieces : pieces "$\x7badmin-mail\x7d".toList =
      "$\x7badmin-mail\x7d".toList.map .literal := by
    decide +kernel
  rw [fill, hpieces]
  rfl

end Template

end Groundwork
