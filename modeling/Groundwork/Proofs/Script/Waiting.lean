import Mathlib.Tactic.ByContra
import Groundwork.Proofs.Script.Looking

/-!
# Waits that succeed

A wait `Covers` some pauses if its time does not run out before they are over.  If the answer of the
outside settles after so many pauses, the wait sees it settle (`World.watch_settles`), and
`pollUntil` ends with a result (`returns_pollUntil`).
-/

namespace Groundwork

open Script

/-! ### Time -/

namespace Wait

/-- The time of the wait is enough for `n` full pauses. -/
def Covers (w : Wait) (n : Nat) : Prop :=
  ∀ left, w.left = some left → n * w.interval.ns ≤ left.ns

theorem covers_within {interval budget : Duration} {n : Nat} (h : n * interval.ns ≤ budget.ns) :
    (within interval budget).Covers n := by
  intro left hleft
  simp only [within] at hleft ⊢
  split at hleft
  · cases hleft
    exact h
  · cases hleft

theorem left_within {interval budget : Duration} (h : (within interval budget).left = none) :
    endlessSeconds ≤ budget.seconds := by
  by_contra hlt
  rw [left_within_of_lt (Nat.lt_of_not_le hlt)] at h
  cases h

/-- After pauses that are covered there is another look. -/
theorem Covers.lasts {w : Wait} {n : Nat} (h : w.Covers n) (hpos : 0 < w.interval.ns) :
    w.Lasts n := by
  intro left hleft
  exact Nat.le_of_mul_le_mul_right (Nat.le_trans (h left hleft) (le_last_mul left hpos)) hpos

/-- The looks that are granted are more than the pauses that are covered.  Only where there is no
end to the wait does it depend on the patience. -/
theorem Covers.lt_looks {w : Wait} {n patience : Nat} (h : w.Covers n) (hpos : 0 < w.interval.ns)
    (hpatience : w.left = none → n < patience) : n < w.looks patience := by
  rcases hleft : w.left with _ | left
  · simp only [looks, hleft]
    exact hpatience hleft
  · exact (h.lasts hpos).lt_looks hleft hpos

end Wait

namespace Script

variable {Request : Type} {Answer : Request → Type} {ε α σ : Type}
  {world : World Request Answer σ} {request : Request}

/-- An outside that goes through phases, down to one in which the answer is not pending any more, is
seen to settle by a wait that covers them. -/
theorem World.watch_settles {pending : Answer request → Bool} {phase : Nat → σ → Prop}
    (post : Answer request → σ → Prop)
    (hlast : ∀ state, phase 0 state → pending (world.answer request state).1 = false ∧
      post (world.answer request state).1 (world.answer request state).2)
    (hmore : ∀ n state, phase (n + 1) state → pending (world.answer request state).1 = true ∧
      ∀ time, phase n (world.sleep time (world.answer request state).2))
    {n looks : Nat} {wait : Wait} {state : σ} (hphase : phase n state)
    (hpos : 0 < wait.interval.ns) (hcovers : wait.Covers n) (hlooks : n < looks) :
    ∃ answer state', world.watch request pending looks wait state = (.seen answer, state') ∧
      post answer state' := by
  -- one look for each phase; every pause takes the outside to the next one
  have hbefore : ∀ m ≤ n, phase (n - m) (world.beforeLook request wait state m) := by
    intro m
    induction m with
    | zero => exact fun _ => hphase
    | succ m ih =>
      intro hm
      have hstate := ih (Nat.le_of_succ_le hm)
      rw [show n - m = n - (m + 1) + 1 by omega] at hstate
      exact (hmore _ _ hstate).2 _
  have hpending : ∀ m < n, pending (world.answerAt request wait state m) = true := by
    intro m hm
    have hstate := hbefore m (Nat.le_of_lt hm)
    rw [show n - m = n - (m + 1) + 1 by omega] at hstate
    exact (hmore _ _ hstate).1
  obtain ⟨hsettled, hpost⟩ := hlast _ (Nat.sub_self n ▸ hbefore n (Nat.le_refl n))
  exact ⟨_, _, World.watch_of_seen hpending hsettled (hcovers.lasts hpos) hlooks, hpost⟩

/-- A step that waits goes on from where the outside has settled. -/
theorem returns_poll {pending : Answer request → Bool}
    {next : Answer request → Script Request Answer ε α}
    {expired : Script Request Answer ε α} (phase : Nat → σ → Prop) {post : σ → Prop} {a : α}
    {n patience : Nat}
    (hlast : ∀ state, phase 0 state → pending (world.answer request state).1 = false ∧
      Returns world patience (next (world.answer request state).1)
        (world.answer request state).2 a post)
    (hmore : ∀ n state, phase (n + 1) state → pending (world.answer request state).1 = true ∧
      ∀ time, phase n (world.sleep time (world.answer request state).2))
    {wait : Wait} {state : σ} (hphase : phase n state) (hpos : 0 < wait.interval.ns)
    (hcovers : wait.Covers n) (hpatience : wait.left = none → n < patience) :
    Returns world patience (.poll wait request pending next expired) state a post := by
  obtain ⟨answer, state', hwatch, state'', hrun, hpost⟩ :=
    world.watch_settles (fun answer state => Returns world patience (next answer) state a post)
      hlast hmore hphase hpos hcovers (hcovers.lt_looks hpos hpatience)
  refine ⟨state'', ?_, hpost⟩
  simp only [run, hwatch, hrun]

/-- Waiting for what comes to pass while the wait lasts. -/
theorem returns_pollUntil {judge : Answer request → Except ε Bool} {overdue : ε}
    (phase : Nat → σ → Prop) {post : σ → Prop} {n patience : Nat}
    (hlast : ∀ state, phase 0 state → judge (world.answer request state).1 = .ok true ∧
      post (world.answer request state).2)
    (hmore : ∀ n state, phase (n + 1) state → judge (world.answer request state).1 = .ok false ∧
      ∀ time, phase n (world.sleep time (world.answer request state).2))
    {wait : Wait} {state : σ} (hphase : phase n state) (hpos : 0 < wait.interval.ns)
    (hcovers : wait.Covers n) (hpatience : wait.left = none → n < patience) :
    Returns world patience (pollUntil wait request judge overdue) state () post := by
  apply returns_poll phase _ _ hphase hpos hcovers hpatience
  · intro state hstate
    obtain ⟨hjudge, hpost⟩ := hlast state hstate
    simp only [hjudge, true_and]
    exact .done hpost
  · intro n state hstate
    obtain ⟨hjudge, hsleep⟩ := hmore n state hstate
    simp only [hjudge, true_and]
    exact hsleep

end Script

end Groundwork
