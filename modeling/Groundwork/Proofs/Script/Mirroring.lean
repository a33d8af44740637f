import Groundwork.Proofs.Script.Run

/-!
# One run after the model of another

`Mirrors world patience R s t S` relates two scripts: from states that `R` relates, whenever `s` ends
with a result so does `t`, and `S` relates what they leave.  `Mirrors.andThen` goes through two
sequences side by side; `Mirrors.of_returns` is for parts whose results are known, and
`Mirrors.alike` for a part that both have in common, if the outside answers it alike.
-/

namespace Groundwork.Script

variable {Request : Type} {Answer : Request → Type} {ε ε' α β γ δ σ : Type}

/-! ### The same answers -/

section Alike

variable {world : World Request Answer σ} {patience : Nat} {R : σ → σ → Prop}

theorem World.watch_alike {request : Request}
    (hanswer : ∀ left right, R left right →
      (world.answer request left).1 = (world.answer request right).1 ∧
        R (world.answer request left).2 (world.answer request right).2)
    (hsleep : ∀ time left right, R left right → R (world.sleep time left) (world.sleep time right))
    (pending : Answer request → Bool) (looks : Nat) (wait : Wait) {left right : σ}
    (h : R left right) :
    (world.watch request pending looks wait left).1 =
        (world.watch request pending looks wait right).1 ∧
      R (world.watch request pending looks wait left).2
        (world.watch request pending looks wait right).2 := by
  induction looks generalizing wait left right with
  | zero => exact ⟨rfl, h⟩
  | succ looks ih =>
    obtain ⟨hsame, hafter⟩ := hanswer left right h
    simp only [World.watch, ← hsame]
    by_cases hpending : pending (world.answer request left).1 = true
    · simp only [hpending, ↓reduceIte]
      rcases wait.pause? with _ | ⟨time, rest⟩
      · exact ⟨rfl, hafter⟩
      · exact ih rest (hsleep time _ _ hafter)
    · simp only [hpending, Bool.false_eq_true, ↓reduceIte, true_and]
      exact hafter

/-- A script is played alike where all that it asks is answered alike. -/
theorem AsksOnly.run_alike {P : Request → Prop} {s : Script Request Answer ε α}
    (hs : AsksOnly P s)
    (hanswer : ∀ request, P request → ∀ left right, R left right →
      (world.answer request left).1 = (world.answer request right).1 ∧
        R (world.answer request left).2 (world.answer request right).2)
    (hsleep : ∀ time left right, R left right → R (world.sleep time left) (world.sleep time right))
    {left right : σ} (h : R left right) :
    (s.run world patience left).1 = (s.run world patience right).1 ∧
      R (s.run world patience left).2 (s.run world patience right).2 := by
  induction s generalizing left right with
  | done a => exact ⟨rfl, h⟩
  | fail e => exact ⟨rfl, h⟩
  | ask request next ih =>
    obtain ⟨hsame, hafter⟩ := hanswer request hs.1 left right h
    simp only [run, ← hsame]
    exact ih _ (hs.2 _) hafter
  | sleep time next ih => exact ih hs (hsleep time left right h)
  | poll wait request pending next expired ihn ihe =>
    obtain ⟨hlook, hafter⟩ := World.watch_alike (hanswer request hs.1) hsleep pending
      (wait.looks patience) wait h
    simp only [run]
    rcases hleft : world.watch request pending (wait.looks patience) wait left with ⟨look, left'⟩
    rcases hright : world.watch request pending (wait.looks patience) wait right with
      ⟨look', right'⟩
    rw [hleft, hright] at hlook hafter
    simp only at hlook hafter
    subst hlook
    cases look with
    | seen answer => exact ihn answer (hs.2.1 answer) hafter
    | expired => exact ihe hs.2.2 hafter
    | unfinished => exact ⟨rfl, hafter⟩

end Alike

/-! ### Side by side -/

/-- From related states, if the first script ends with a result so does the second, and what they
leave is related. -/
structure Mirrors (world : World Request Answer σ) (patience : Nat) (R : σ → σ → Prop)
    (s : Script Request Answer ε α) (t : Script Request Answer ε β)
    (S : α → β → σ → σ → Prop) : Prop where
  of_run : ∀ {left right left' : σ} {a : α}, R left right →
    s.run world patience left = (some (.ok a), left') →
      ∃ b right', t.run world patience right = (some (.ok b), right') ∧ S a b left' right'

namespace Mirrors

variable {world : World Request Answer σ} {patience : Nat} {R : σ → σ → Prop}

theorem done {a : α} {b : β} {S : α → β → σ → σ → Prop}
    (h : ∀ left right, R left right → S a b left right) :
    Mirrors world patience R (.done a : Script Request Answer ε α) (.done b) S := by
  refine ⟨fun {left right left' a'} hR hrun => ?_⟩
  cases hrun
  exact ⟨b, right, rfl, h left right hR⟩

/-- Nothing has to follow a failure. -/
theorem fail {e : ε} {t : Script Request Answer ε β} {S : α → β → σ → σ → Prop} :
    Mirrors world patience R (.fail e) t S := by
  refine ⟨fun hR hrun => ?_⟩
  cases hrun

theorem weaken {R' : σ → σ → Prop} {s : Script Request Answer ε α} {t : Script Request Answer ε β}
    {S S' : α → β → σ → σ → Prop} (h : Mirrors world patience R s t S)
    (hR : ∀ left right, R' left right → R left right)
    (hS : ∀ a b left right, S a b left right → S' a b left right) :
    Mirrors world patience R' s t S' := by
  refine ⟨fun hR' hrun => ?_⟩
  obtain ⟨b, right', hrun', hpost⟩ := h.of_run (hR _ _ hR') hrun
  exact ⟨b, right', hrun', hS _ _ _ _ hpost⟩

/-- What is known of related states may be used in the proof. -/
theorem knowing {s : Script Request Answer ε α} {t : Script Request Answer ε β}
    {S : α → β → σ → σ → Prop} {p : Prop} (hp : ∀ left right, R left right → p)
    (h : p → Mirrors world patience R s t S) : Mirrors world patience R s t S :=
  ⟨fun hR hrun => (h (hp _ _ hR)).of_run hR hrun⟩

theorem andThen {s : Script Request Answer ε α} {t : Script Request Answer ε β}
    {f : α → Script Request Answer ε γ} {g : β → Script Request Answer ε δ}
    {M : α → β → σ → σ → Prop} {S : γ → δ → σ → σ → Prop} (hs : Mirrors world patience R s t M)
    (hf : ∀ a b, Mirrors world patience (M a b) (f a) (g b) S) :
    Mirrors world patience R (s.andThen f) (t.andThen g) S := by
  refine ⟨fun {left right left' c} hR hrun => ?_⟩
  obtain ⟨a, mid, hfirst, hrest⟩ := exists_run_of_andThen hrun
  obtain ⟨b, mid', hfirst', hM⟩ := hs.of_run hR hfirst
  obtain ⟨d, right', hrest', hS⟩ := (hf a b).of_run hM hrest
  exact ⟨d, right', by rw [run_andThen_ok hfirst', hrest'], hS⟩

theorem mapError {s : Script Request Answer ε α} {t : Script Request Answer ε β} {f : ε → ε'}
    {S : α → β → σ → σ → Prop} (h : Mirrors world patience R s t S) :
    Mirrors world patience R (s.mapError f) (t.mapError f) S := by
  refine ⟨fun {left right left' a} hR hrun => ?_⟩
  obtain ⟨outcome, mid, hfirst, hrest⟩ := exists_run_of_handle hrun
  cases outcome with
  | error e => cases hrest
  | ok a' =>
    cases hrest
    obtain ⟨b, right', hrun', hS⟩ := h.of_run hR hfirst
    exact ⟨b, right', by rw [Script.mapError, run_handle_some hrun']; rfl, hS⟩

/-- Parts whose results are known. -/
theorem of_returns {s : Script Request Answer ε α} {t : Script Request Answer ε β}
    {S : α → β → σ → σ → Prop} (P : α → σ → σ → Prop)
    (hs : ∀ left right, R left right →
      ∃ a, Returns world patience s left a fun left' => P a left' right)
    (ht : ∀ a left' right, P a left' right →
      ∃ b, Returns world patience t right b fun right' => S a b left' right') :
    Mirrors world patience R s t S := by
  refine ⟨fun {left right left' a} hR hrun => ?_⟩
  obtain ⟨a', left'', hrun', hP⟩ := hs left right hR
  rw [hrun] at hrun'
  cases hrun'
  obtain ⟨b, right', hrun'', hS⟩ := ht a left' right hP
  exact ⟨b, right', hrun'', hS⟩

/-- What is common to both, where the outside answers it alike. -/
theorem alike {P : Request → Prop} {s : Script Request Answer ε α} (hs : AsksOnly P s)
    (hanswer : ∀ request, P request → ∀ left right, R left right →
      (world.answer request left).1 = (world.answer request right).1 ∧
        R (world.answer request left).2 (world.answer request right).2)
    (hsleep : ∀ time left right, R left right →
      R (world.sleep time left) (world.sleep time right)) :
    Mirrors world patience R s s fun a b left right => a = b ∧ R left right := by
  refine ⟨fun {left right left' a} hR hrun => ?_⟩
  obtain ⟨houtcome, hafter⟩ : (s.run world patience left).1 = (s.run world patience right).1 ∧
      R (s.run world patience left).2 (s.run world patience right).2 :=
    hs.run_alike hanswer hsleep hR
  rw [hrun] at houtcome hafter
  exact ⟨a, (s.run world patience right).2, Prod.ext houtcome.symm rfl, rfl, hafter⟩

end Mirrors

end Groundwork.Script
