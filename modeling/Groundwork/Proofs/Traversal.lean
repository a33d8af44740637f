import Mathlib.Data.List.Forall2

/-!
# Results one by one

A step that may fail goes through a list with `mapM` if and only if it succeeds on every element
(`mapM_eq_ok`, `exists_mapM_eq_ok_iff`), and where it fails it fails with the first of them on which
the step does (`mapM_eq_error`).  Lists that are related one by one have partners for their members
(`exists_of_mem_left`, `exists_of_mem_right`), and searches that see the same in partners find
partners (`rel_find?_of_forall₂`), or the same (`findSome?_of_forall₂`).
-/

namespace Groundwork

variable {α β ε : Type} {f : α → Except ε β}

theorem bind_eq_ok {x : Except ε α} {f : α → Except ε β} {b : β} :
    x >>= f = .ok b ↔ ∃ a, x = .ok a ∧ f a = .ok b := by
  cases x with
  | error e => simp [bind, Except.bind]
  | ok a => simp [bind, Except.bind]

theorem map_eq_ok {x : Except ε α} {f : α → β} {b : β} :
    x.map f = .ok b ↔ ∃ a, x = .ok a ∧ f a = b := by
  cases x with
  | error e => simp [Except.map]
  | ok a => simp [Except.map]

theorem bind_eq_error {x : Except ε α} {f : α → Except ε β} {e : ε} :
    x >>= f = .error e ↔ x = .error e ∨ ∃ a, x = .ok a ∧ f a = .error e := by
  cases x with
  | error e' => simp [bind, Except.bind]
  | ok a => simp [bind, Except.bind]

theorem map_eq_error {x : Except ε α} {f : α → β} {e : ε} :
    x.map f = .error e ↔ x = .error e := by
  cases x with
  | error e' => simp [Except.map]
  | ok a => simp [Except.map]

theorem mapM_eq_ok {l : List α} {results : List β} :
    l.mapM f = .ok results ↔ List.Forall₂ (fun a b => f a = .ok b) l results := by
  induction l generalizing results with
  | nil =>
    rw [List.mapM_nil, List.forall₂_nil_left_iff]
    show Except.ok [] = Except.ok results ↔ _
    rw [Except.ok.injEq, eq_comm]
  | cons a rest ih =>
    rw [List.mapM_cons, bind_eq_ok]
    constructor
    · rintro ⟨b, hb, hrest⟩
      obtain ⟨others, hothers, heq⟩ := bind_eq_ok.mp hrest
      cases heq
      exact .cons hb (ih.mp hothers)
    · intro h
      cases h with
      | cons hb hrest =>
        exact ⟨_, hb, bind_eq_ok.mpr ⟨_, ih.mpr hrest, rfl⟩⟩

theorem exists_of_mem_left {R : α → β → Prop} {l : List α} {l' : List β} (h : List.Forall₂ R l l')
    {a : α} (ha : a ∈ l) : ∃ b ∈ l', R a b := by
  induction h with
  | nil => cases ha
  | cons hab _ ih =>
    rcases List.mem_cons.mp ha with rfl | ha
    · exact ⟨_, List.mem_cons_self .., hab⟩
    · obtain ⟨b, hb, hR⟩ := ih ha
      exact ⟨b, List.mem_cons_of_mem _ hb, hR⟩

theorem not_exists_split_nil {P : List α → α → Prop} :
    ¬∃ pre a post, [] = pre ++ a :: post ∧ P pre a := by
  rintro ⟨pre, a, post, hnil, -⟩
  exact List.append_ne_nil_of_right_ne_nil pre (List.cons_ne_nil a post) hnil.symm

/-- A place in a list is the front, or a place in the rest. -/
theorem exists_split_cons {P : List α → α → Prop} {x : α} {rest : List α} :
    (∃ pre a post, x :: rest = pre ++ a :: post ∧ P pre a) ↔
      P [] x ∨ ∃ pre a post, rest = pre ++ a :: post ∧ P (x :: pre) a := by
  constructor
  · rintro ⟨pre, a, post, hl, ha⟩
    cases pre with
    | nil =>
      obtain ⟨rfl, rfl⟩ := List.cons.inj hl
      exact Or.inl ha
    | cons first pre =>
      obtain ⟨rfl, rfl⟩ := List.cons.inj hl
      exact Or.inr ⟨pre, a, post, rfl, ha⟩
  · rintro (hx | ⟨pre, a, post, rfl, ha⟩)
    · exact ⟨[], x, rest, rfl, hx⟩
    · exact ⟨x :: pre, a, post, rfl, ha⟩

/-- It fails with the first element on which the step fails. -/
theorem mapM_eq_error {l : List α} {e : ε} :
    l.mapM f = .error e ↔
      ∃ pre a post, l = pre ++ a :: post ∧ (∀ b ∈ pre, ∃ c, f b = .ok c) ∧ f a = .error e := by
  induction l with
  | nil =>
    refine iff_of_false ?_ not_exists_split_nil
    rw [List.mapM_nil]
    exact nofun
  | cons x rest ih =>
    rw [List.mapM_cons, bind_eq_error, exists_split_cons]
    constructor
    · rintro (hx | ⟨b, hb, hrest⟩)
      · exact Or.inl ⟨List.forall_mem_nil _, hx⟩
      · rcases bind_eq_error.mp hrest with hrest | ⟨others, -, hpure⟩
        · obtain ⟨pre, a, post, hl, hpre, ha⟩ := ih.mp hrest
          exact Or.inr ⟨pre, a, post, hl, List.forall_mem_cons.mpr ⟨⟨b, hb⟩, hpre⟩, ha⟩
        · cases hpure
    · rintro (⟨-, hx⟩ | ⟨pre, a, post, hl, hpre, ha⟩)
      · exact Or.inl hx
      · obtain ⟨⟨b, hb⟩, hpre⟩ := List.forall_mem_cons.mp hpre
        have hrest := ih.mpr ⟨pre, a, post, hl, hpre, ha⟩
        exact Or.inr ⟨b, hb, bind_eq_error.mpr (Or.inl hrest)⟩

theorem exists_of_mapM_eq_error {l : List α} {e : ε} (h : l.mapM f = .error e) :
    ∃ a ∈ l, f a = .error e := by
  obtain ⟨pre, a, post, rfl, -, ha⟩ := mapM_eq_error.mp h
  exact ⟨a, List.mem_append_right _ (List.mem_cons_self ..), ha⟩

/-- A step goes through the list if and only if it succeeds on every element. -/
theorem exists_mapM_eq_ok_iff {l : List α} :
    (∃ results, l.mapM f = .ok results) ↔ ∀ a ∈ l, ∃ b, f a = .ok b := by
  constructor
  · rintro ⟨results, h⟩ a ha
    obtain ⟨b, -, hb⟩ := exists_of_mem_left (mapM_eq_ok.mp h) ha
    exact ⟨b, hb⟩
  · intro h
    rcases hresults : l.mapM f with e | results
    · obtain ⟨a, hmem, ha⟩ := exists_of_mapM_eq_error hresults
      obtain ⟨b, hb⟩ := h a hmem
      rw [hb] at ha
      cases ha
    · exact ⟨results, rfl⟩

theorem exists_of_mem_right {R : α → β → Prop} {l : List α} {l' : List β} (h : List.Forall₂ R l l')
    {b : β} (hb : b ∈ l') : ∃ a ∈ l, R a b :=
  exists_of_mem_left h.flip hb

/-- The first elements that two tests find are related, if the tests agree on related elements. -/
theorem rel_find?_of_forall₂ {R : α → β → Prop} {l : List α} {l' : List β} {p : α → Bool}
    {q : β → Bool} (h : List.Forall₂ R l l') (hpq : ∀ a b, R a b → p a = q b) :
    Option.Rel R (l.find? p) (l'.find? q) := by
  induction h with
  | nil => exact .none
  | @cons a b _ _ hab _ ih =>
    rw [List.find?_cons, List.find?_cons, hpq a b hab]
    cases q b with
    | true => exact .some hab
    | false => exact ih

theorem findSome?_of_forall₂ {γ : Type} {R : α → β → Prop} {l : List α} {l' : List β}
    {p : α → Option γ} {q : β → Option γ} (h : List.Forall₂ R l l')
    (hR : ∀ a b, R a b → p a = q b) : l.findSome? p = l'.findSome? q := by
  induction h with
  | nil => rfl
  | cons hab _ ih => rw [List.findSome?_cons, List.findSome?_cons, hR _ _ hab, ih]

end Groundwork
