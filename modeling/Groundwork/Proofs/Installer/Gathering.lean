import Groundwork.Installer
import Groundwork.Proofs.Settings.Keys

/-!
# Gathering settings

The installer's settings are those of its components, merged in their order.  Looking up a name and
scope finds what the last component with such a setting needs, without a value if it is shared
(`find?_gathered`), and nothing else comes in (`mem_gathered`).
-/

namespace Groundwork.Installer

variable {components : List Component} {s : Setting}

theorem find?_foldl_merge (h : ∀ c ∈ components, c.needed.Keyed) (ss : Settings) (name : String)
    (scope : Scope) :
    (components.foldl (fun ss c => ss.merge c.needed.clearShared) ss).find? name scope =
      (components.reverse.findSome? fun c => c.needed.clearShared.find? name scope).or
        (ss.find? name scope) := by
  induction components generalizing ss with
  | nil => rfl
  | cons c rest ih =>
    have hc : c.needed.clearShared.Keyed := Settings.keyed_clearShared (h c (List.mem_cons_self ..))
    rw [List.foldl_cons, ih fun c hmem => h c (List.mem_cons_of_mem _ hmem),
      Settings.find?_merge _ hc, List.reverse_cons, List.findSome?_append, Option.or_assoc]
    congr 2
    rw [List.findSome?_cons]
    cases c.needed.clearShared.find? name scope <;> rfl

theorem find?_gathered (h : ∀ c ∈ components, c.needed.Keyed) (name : String) (scope : Scope) :
    (gathered components).find? name scope =
      components.reverse.findSome? fun c => c.needed.clearShared.find? name scope := by
  rw [gathered, find?_foldl_merge h]
  exact Option.or_none

theorem mem_foldl_merge {ss : Settings}
    (h : s ∈ (components.foldl (fun ss c => ss.merge c.needed.clearShared) ss).entries) :
    s ∈ ss.entries ∨ ∃ c ∈ components, s ∈ c.needed.clearShared.entries := by
  induction components generalizing ss with
  | nil => exact Or.inl h
  | cons c rest ih =>
    rcases ih h with hmerged | ⟨d, hd, hs⟩
    · rcases Settings.mem_insertAll hmerged with hs | hs
      · exact Or.inr ⟨c, List.mem_cons_self .., hs⟩
      · exact Or.inl hs
    · exact Or.inr ⟨d, List.mem_cons_of_mem _ hd, hs⟩

theorem mem_gathered (h : s ∈ (gathered components).entries) :
    ∃ c ∈ components, s ∈ c.needed.clearShared.entries := by
  rcases mem_foldl_merge h with hs | hs
  · cases hs
  · exact hs

end Groundwork.Installer
