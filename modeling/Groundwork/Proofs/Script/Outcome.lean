import Groundwork.Proofs.Script.Run

/-!
# Runs with a known outcome

`Fails world patience s state e post` is the counterpart of `Returns` for a run that ends with the
error `e`.  A run with a known result also leaves whatever its requests keep (`Returns.keeping`), and
a contract may start with a part whose result is known (`Returns.upholds`).  `Upholds.pollUntil` is
the contract of a wait: when it ends with a result, it has seen an answer that its judge accepts.
-/

namespace Groundwork.Script

variable {Request : Type} {Answer : Request → Type} {ε ε' α β σ : Type}
  {world : World Request Answer σ} {patience : Nat} {state : σ}

/-! ### Failing -/

/-- Played from the state, the script ends with the error `e` and leaves `post`. -/
def Fails (world : World Request Answer σ) (patience : Nat) (s : Script Request Answer ε α)
    (state : σ) (e : ε) (post : σ → Prop) : Prop :=
  ∃ state', s.run world patience state = (some (.error e), state') ∧ post state'

namespace Fails

theorem fail {e : ε} {post : σ → Prop} (h : post state) :
    Fails world patience (.fail e : Script Request Answer ε α) state e post :=
  ⟨state, rfl, h⟩

theorem andThen {s : Script Request Answer ε α} {f : α → Script Request Answer ε β} {e : ε}
    {post : σ → Prop} (h : Fails world patience s state e post) :
    Fails world patience (s.andThen f) state e post := by
  obtain ⟨state', hrun, hpost⟩ := h
  exact ⟨state', run_andThen_error hrun, hpost⟩

theorem mapError {s : Script Request Answer ε α} {f : ε → ε'} {e : ε} {post : σ → Prop}
    (h : Fails world patience s state e post) :
    Fails world patience (s.mapError f) state (f e) post := by
  obtain ⟨state', hrun, hpost⟩ := h
  refine ⟨state', ?_, hpost⟩
  rw [Script.mapError, run_handle_some hrun]
  rfl

end Fails

/-! ### Returning -/

namespace Returns

/-- A script fails if what follows its first part does. -/
theorem andThen_fails {s : Script Request Answer ε α} {f : α → Script Request Answer ε β} {a : α}
    {e : ε} {mid post : σ → Prop} (hs : Returns world patience s state a mid)
    (hf : ∀ state', mid state' → Fails world patience (f a) state' e post) :
    Fails world patience (s.andThen f) state e post := by
  obtain ⟨state', hrun, hmid⟩ := hs
  obtain ⟨state'', hrun', hpost⟩ := hf state' hmid
  exact ⟨state'', by rw [run_andThen_ok hrun, hrun'], hpost⟩

theorem mapError {s : Script Request Answer ε α} {f : ε → ε'} {a : α} {post : σ → Prop}
    (h : Returns world patience s state a post) :
    Returns world patience (s.mapError f) state a post := by
  obtain ⟨state', hrun, hpost⟩ := h
  refine ⟨state', ?_, hpost⟩
  rw [Script.mapError, run_handle_some hrun]
  rfl

/-- What succeeds at once is not tried again. -/
theorem retryIf {policy : RetryPolicy} {retryable : ε → Script Request Answer ε Bool}
    {s : Script Request Answer ε α} {a : α} {post : σ → Prop}
    (h : Returns world patience s state a post) :
    Returns world patience (retryIf policy retryable s) state a post := by
  unfold Script.retryIf
  cases max policy.maxAttempts.toNat 1 - 1 with
  | zero => exact h
  | succ again =>
    obtain ⟨state', hrun, hpost⟩ := h
    refine ⟨state', ?_, hpost⟩
    rw [retryLoop, run_handle_some hrun]
    rfl

/-- What is kept by everything that the script may ask is left as well. -/
theorem keeping {s : Script Request Answer ε α} {a : α} {post J : σ → Prop} {P : Request → Prop}
    (h : Returns world patience s state a post) (hs : AsksOnly P s)
    (hanswer : ∀ request, P request → ∀ state, J state → J (world.answer request state).2)
    (hsleep : ∀ time state, J state → J (world.sleep time state)) (hstate : J state) :
    Returns world patience s state a fun state' => post state' ∧ J state' := by
  obtain ⟨state', hrun, hpost⟩ := h
  have hkept : J (s.run world patience state).2 := hs.run_keeps hanswer hsleep state hstate
  rw [hrun] at hkept
  exact ⟨state', hrun, hpost, hkept⟩

/-- A script whose result is known has the contract that says so. -/
theorem upholds {s : Script Request Answer ε α} {a : α} {pre post : σ → Prop}
    (h : ∀ state, pre state → Returns world patience s state a post) :
    Upholds world patience (fun _ => True) pre s fun b state' => b = a ∧ post state' := by
  intro state _ hpre
  obtain ⟨state', hrun, hpost⟩ := h state hpre
  rw [hrun]
  refine ⟨trivial, fun b hb => ?_⟩
  cases hb
  exact ⟨rfl, hpost⟩

end Returns

/-- Every script has the contract that promises nothing. -/
theorem Upholds.promising_nothing {pre : σ → Prop} (s : Script Request Answer ε α) :
    Upholds world patience (fun _ => True) pre s fun _ _ => True :=
  fun _ _ _ => ⟨trivial, fun _ _ => trivial⟩

theorem Upholds.mapError {I pre : σ → Prop} {s : Script Request Answer ε α} {f : ε → ε'}
    {post : α → σ → Prop} (h : Upholds world patience I pre s post) :
    Upholds world patience I pre (s.mapError f) post :=
  h.handle (fun _ => Upholds.done fun _ _ hpost => hpost) fun _ => Upholds.fail

/-- What is known from the precondition may be used in the proof of a contract. -/
theorem Upholds.knowing {I pre : σ → Prop} {s : Script Request Answer ε α} {post : α → σ → Prop}
    {p : Prop} (hp : ∀ state, pre state → p) (h : p → Upholds world patience I pre s post) :
    Upholds world patience I pre s post :=
  fun state hI hpre => h (hp state hpre) state hI hpre

/-! ### Waiting -/

/-- A wait has seen an answer given where `pre` holds, if every other look and every pause keeps
`pre`. -/
theorem World.watch_seen_from {pre : σ → Prop} {request : Request}
    {pending : Answer request → Bool}
    (hlook : ∀ state, pre state → pending (world.answer request state).1 = true →
      pre (world.answer request state).2)
    (hsleep : ∀ time state, pre state → pre (world.sleep time state)) {looks : Nat} {wait : Wait}
    {state' : σ} {answer : Answer request} (hstate : pre state)
    (h : world.watch request pending looks wait state = (.seen answer, state')) :
    ∃ before, pre before ∧ world.answer request before = (answer, state') ∧
      pending answer = false := by
  induction looks generalizing wait state with
  | zero => cases h
  | succ looks ih =>
    simp only [World.watch] at h
    by_cases hpending : pending (world.answer request state).1 = true
    · simp only [hpending, ↓reduceIte] at h
      rcases hpause : wait.pause? with _ | ⟨time, rest⟩ <;> rw [hpause] at h
      · cases h
      · exact ih (hsleep time _ (hlook state hstate hpending)) h
    · simp only [hpending, Bool.false_eq_true, ↓reduceIte] at h
      cases h
      exact ⟨state, hstate, rfl, Bool.eq_false_iff.mpr hpending⟩

theorem Upholds.pollUntil {pre post : σ → Prop} {wait : Wait} {request : Request}
    {judge : Answer request → Except ε Bool} {overdue : ε}
    (hlook : ∀ state, pre state → judge (world.answer request state).1 = .ok false →
      pre (world.answer request state).2)
    (hseen : ∀ state, pre state → judge (world.answer request state).1 = .ok true →
      post (world.answer request state).2)
    (hsleep : ∀ time state, pre state → pre (world.sleep time state)) :
    Upholds world patience (fun _ => True) pre (Script.pollUntil wait request judge overdue)
      fun _ => post := by
  intro state _ hstate
  refine ⟨trivial, fun a hrun => ?_⟩
  simp only [Script.pollUntil, run] at hrun ⊢
  split at hrun
  · rename_i answer mid hwatch
    obtain ⟨before, hbefore, hanswer, hpending⟩ :=
      World.watch_seen_from (fun state hstate hpending => by
        apply hlook state hstate
        split at hpending
        · assumption
        · cases hpending) hsleep hstate hwatch
    have hpost := hseen before hbefore
    rw [hanswer] at hpost
    -- the answer is not pending, so the judge has said yes or failed
    rcases hjudge : judge answer with e | b
    · rw [hjudge] at hrun
      cases hrun
    · cases b with
      | true => exact hpost hjudge
      | false =>
        rw [hjudge] at hpending
        cases hpending
  · cases hrun
  · cases hrun

end Groundwork.Script
