import Mathlib.Algebra.Order.Floor.Div
import Groundwork.Proofs.Duration
import Groundwork.Proofs.Script.History

/-!
# The looks of a wait

A wait looks, pauses for its interval and looks again; its last pause ends with its time.  So the
look number `n`, counted from 0, is made when `n` intervals have passed or the time is up
(`Wait.lookTime`), and the time is up at the look whose number is the time divided by the interval,
rounded up.  `Wait.Lasts w n` says that there is a look of number `n`.

`World.beforeLook` is the state in which an outside is looked at for the `n`-th time, if all looks
before have found the answer pending, and `World.answerAt` what it answers then.  These decide how a
wait goes on and what has happened when it ends: `run_pollUntil_judged`, `run_pollUntil_overdue` and
`run_pollUntil_unfinished` are all its ends.
-/

namespace Groundwork

open Script

/-! ### Pauses -/

namespace Wait

variable {w : Wait} {left : Duration} {n patience : Nat}

/-- The wait that is left after `n` pauses. -/
def after (w : Wait) (n : Nat) : Wait :=
  { w with left := w.left.map fun left => left.minus (w.interval.scale n) }

/-- The pause after the look number `n`. -/
def pauseAfter (w : Wait) (n : Nat) : Duration :=
  match w.left with
  | none => w.interval
  | some left => w.interval.shorter (left.minus (w.interval.scale n))

/-- The nanoseconds after which the look number `n` is made. -/
def lookTime (w : Wait) (n : Nat) : Nat :=
  match w.left with
  | none => n * w.interval.ns
  | some left => min (n * w.interval.ns) left.ns

/-- The wait comes to a look of this number, if nothing ends it before. -/
def Lasts (w : Wait) (n : Nat) : Prop :=
  ∀ left, w.left = some left → n ≤ left.ns ⌈/⌉ w.interval.ns

theorem left_within_of_lt {budget : Duration} (h : budget.seconds < endlessSeconds)
    (interval : Duration) : (within interval budget).left = some budget := by
  rw [within, if_pos h]

theorem after_zero (w : Wait) : w.after 0 = w := by
  rcases w with ⟨interval, _ | left⟩
  · rfl
  · have hleft : left.minus (interval.scale 0) = left := by
      apply Duration.eq_of_ns
      rw [Duration.ns_minus_scale, Nat.zero_mul, Nat.sub_zero]
    rw [after, Option.map_some, hleft]

theorem lasts_of_endless (hleft : w.left = none) (n : Nat) : w.Lasts n := by
  intro left h
  rw [hleft] at h
  cases h

theorem lasts_of_le (hleft : w.left = some left) (h : n ≤ left.ns ⌈/⌉ w.interval.ns) :
    w.Lasts n := by
  intro left' hleft'
  rw [hleft] at hleft'
  cases hleft'
  exact h

theorem Lasts.mono {m : Nat} (h : w.Lasts n) (hle : m ≤ n) : w.Lasts m :=
  fun left hleft => Nat.le_trans hle (h left hleft)

/-- As long as there is another look, the intervals so far have not used up the time. -/
theorem Lasts.mul_lt (h : w.Lasts (n + 1)) (hleft : w.left = some left) :
    n * w.interval.ns < left.ns := by
  have hlt : n < left.ns ⌈/⌉ w.interval.ns := h left hleft
  rcases Nat.eq_zero_or_pos w.interval.ns with hzero | hpositive
  · rw [hzero, ceilDiv_zero] at hlt
    exact absurd hlt (Nat.not_lt_zero n)
  · rw [← not_le, ceilDiv_le_iff_le_mul hpositive, Nat.mul_comm] at hlt
    exact Nat.lt_of_not_le hlt

theorem pause?_after (h : w.Lasts (n + 1)) :
    (w.after n).pause? = some (w.pauseAfter n, w.after (n + 1)) := by
  rcases hleft : w.left with _ | left
  · simp only [pause?, after, pauseAfter, hleft, Option.map_none]
  · have hlt : n * w.interval.ns < left.ns := h.mul_lt hleft
    have hns := left.ns_minus_scale w.interval n
    have hrest : (left.minus (w.interval.scale n)).minus
        (w.interval.shorter (left.minus (w.interval.scale n))) =
          left.minus (w.interval.scale (n + 1)) := by
      apply Duration.eq_of_ns
      rw [Duration.ns_minus_scale, Nat.succ_mul]
      show (left.minus _).ns - (w.interval.shorter _).ns = _
      rw [Duration.ns_shorter, hns]
      omega
    simp only [pause?, after, pauseAfter, hleft, Option.map_some, hrest]
    rw [if_neg]
    omega

/-- The intervals up to the last look are no shorter than the time. -/
theorem le_last_mul (left : Duration) {interval : Duration} (hinterval : 0 < interval.ns) :
    left.ns ≤ left.ns ⌈/⌉ interval.ns * interval.ns := by
  rw [Nat.mul_comm]
  exact (ceilDiv_le_iff_le_mul hinterval).mp (Nat.le_refl _)

/-- At the last look no time is left. -/
theorem pause?_after_last (hleft : w.left = some left) (hinterval : 0 < w.interval.ns) :
    (w.after (left.ns ⌈/⌉ w.interval.ns)).pause? = none := by
  simp only [pause?, after, hleft, Option.map_some, Duration.ns_minus_scale]
  rw [if_pos (Nat.sub_eq_zero_of_le (le_last_mul left hinterval))]

theorem lookTime_zero (w : Wait) : w.lookTime 0 = 0 := by
  unfold lookTime
  split
  · exact Nat.zero_mul _
  · rw [Nat.zero_mul, Nat.zero_min]

theorem lookTime_of_left (hleft : w.left = some left) (n : Nat) :
    w.lookTime n = min (n * w.interval.ns) left.ns := by
  simp only [lookTime, hleft]

theorem lookTime_last (hleft : w.left = some left) (hinterval : 0 < w.interval.ns) :
    w.lookTime (left.ns ⌈/⌉ w.interval.ns) = left.ns := by
  rw [lookTime_of_left hleft, Nat.min_eq_right (le_last_mul left hinterval)]

theorem lookTime_of_endless (hleft : w.left = none) (n : Nat) :
    w.lookTime n = n * w.interval.ns := by
  simp only [lookTime, hleft]

/-- One look is made a pause after the other. -/
theorem lookTime_succ (w : Wait) (n : Nat) :
    w.lookTime (n + 1) = w.lookTime n + (w.pauseAfter n).ns := by
  rcases hleft : w.left with _ | left
  · simp only [lookTime, pauseAfter, hleft]
    exact Nat.succ_mul _ _
  · simp only [lookTime, pauseAfter, hleft]
    rw [Duration.ns_shorter, Duration.ns_minus_scale, Nat.succ_mul]
    omega

/-- All looks of a wait with a deadline are granted. -/
theorem Lasts.lt_looks (h : w.Lasts n) (hleft : w.left = some left)
    (hinterval : 0 < w.interval.ns) : n < w.looks patience := by
  have hle : n ≤ left.ns ⌈/⌉ w.interval.ns := h left hleft
  unfold looks
  simp only [hleft]
  by_cases hzero : left.ns = 0
  · rw [hzero, zero_ceilDiv] at hle
    rw [if_pos hzero]
    omega
  · rw [if_neg hzero, if_neg (Nat.pos_iff_ne_zero.mp hinterval)]
    have hceil : left.ns ⌈/⌉ w.interval.ns ≤ left.ns / w.interval.ns + 1 := by
      rw [Nat.ceilDiv_eq_add_pred_div, ← Nat.add_div_right _ hinterval]
      exact Nat.div_le_div_right (Nat.sub_le _ _)
    omega

/-- The first `n` looks, which find these answers, and the pause after each. -/
def course {Request : Type} {Answer : Request → Type} (w : Wait) (request : Request)
    (answers : Nat → Answer request) (n : Nat) : History Request Answer :=
  (List.range n).flatMap fun m => [.asked request (answers m), .slept (w.pauseAfter m)]

theorem course_succ {Request : Type} {Answer : Request → Type} (w : Wait) (request : Request)
    (answers : Nat → Answer request) (n : Nat) :
    w.course request answers (n + 1) =
      w.course request answers n ++ [.asked request (answers n), .slept (w.pauseAfter n)] := by
  rw [course, List.range_succ, List.flatMap_append, List.flatMap_singleton]
  rfl

theorem mem_course {Request : Type} {Answer : Request → Type} {request : Request}
    {answers : Nat → Answer request} {o : Occurrence Request Answer}
    (h : o ∈ w.course request answers n) :
    (∃ m < n, o = .asked request (answers m)) ∨ ∃ time, o = .slept time := by
  obtain ⟨m, hm, ho⟩ := List.mem_flatMap.mp h
  simp only [List.mem_cons, List.not_mem_nil, or_false] at ho
  rcases ho with rfl | rfl
  · exact Or.inl ⟨m, List.mem_range.mp hm, rfl⟩
  · exact Or.inr ⟨_, rfl⟩

end Wait

namespace Script

variable {Request : Type} {Answer : Request → Type} {ε α σ : Type}

/-- Up to a number something comes about for the first time, or not at all. -/
theorem exists_first_or_none (P : Nat → Prop) (last : Nat) :
    (∃ n ≤ last, P n ∧ ∀ m < n, ¬P m) ∨ ∀ m ≤ last, ¬P m := by
  induction last using Nat.strong_induction_on with
  | _ last ih =>
    by_cases hbefore : ∃ m < last, P m
    · obtain ⟨m, hm, hP⟩ := hbefore
      rcases ih m hm with ⟨n, hn, hfirst⟩ | hnone
      · exact Or.inl ⟨n, Nat.le_trans hn (Nat.le_of_lt hm), hfirst⟩
      · exact absurd hP (hnone m (Nat.le_refl m))
    · by_cases hlast : P last
      · exact Or.inl ⟨last, Nat.le_refl _, hlast, fun m hm hP => hbefore ⟨m, hm, hP⟩⟩
      · right
        intro m hm hP
        rcases Nat.lt_or_eq_of_le hm with hlt | rfl
        · exact hbefore ⟨m, hlt, hP⟩
        · exact hlast hP

/-! ### Looks -/

section Looks

variable {world : World Request Answer σ} {request : Request} {wait : Wait} {state : σ}
  {pending : Answer request → Bool} {n looks : Nat}

/-- The state in which the look number `n` is made, if all looks before found the answer pending. -/
def World.beforeLook (world : World Request Answer σ) (request : Request) (wait : Wait)
    (state : σ) : Nat → σ
  | 0 => state
  | n + 1 =>
    world.sleep (wait.pauseAfter n) (world.answer request (world.beforeLook request wait state n)).2

/-- What the look number `n` finds. -/
def World.answerAt (world : World Request Answer σ) (request : Request) (wait : Wait) (state : σ)
    (n : Nat) : Answer request :=
  (world.answer request (world.beforeLook request wait state n)).1

/-- Looks that find the answer pending are followed by others as long as the wait lasts. -/
theorem World.watch_of_pending
    (hpending : ∀ m < n, pending (world.answerAt request wait state m) = true)
    (hlasts : wait.Lasts n) :
    world.watch request pending (looks + n) wait state =
      world.watch request pending looks (wait.after n)
        (world.beforeLook request wait state n) := by
  induction n generalizing looks with
  | zero =>
    rw [wait.after_zero]
    rfl
  | succ n ih =>
    have hlast : pending (world.answer request (world.beforeLook request wait state n)).1 = true :=
      hpending n (Nat.lt_succ_self n)
    -- the wait that is left after the looks before makes one more of them
    rw [← Nat.add_assoc, Nat.add_right_comm,
      ih (fun m hm => hpending m (Nat.lt_succ_of_lt hm)) (hlasts.mono (Nat.le_succ n))]
    simp only [World.watch, hlast, ↓reduceIte, Wait.pause?_after hlasts]
    rfl

theorem World.watch_of_seen
    (hpending : ∀ m < n, pending (world.answerAt request wait state m) = true)
    (hseen : pending (world.answerAt request wait state n) = false) (hlasts : wait.Lasts n)
    (hlooks : n < looks) :
    world.watch request pending looks wait state =
      (.seen (world.answerAt request wait state n),
        (world.answer request (world.beforeLook request wait state n)).2) := by
  obtain ⟨more, rfl⟩ := Nat.exists_eq_add_of_lt hlooks
  have hlast : pending (world.answer request (world.beforeLook request wait state n)).1 = false :=
    hseen
  rw [Nat.add_assoc, Nat.add_comm, World.watch_of_pending hpending hlasts]
  simp only [World.watch, hlast, Bool.false_eq_true, ↓reduceIte]
  rfl

theorem World.watch_of_expired {left : Duration} (hleft : wait.left = some left)
    (hinterval : 0 < wait.interval.ns)
    (hpending : ∀ m ≤ left.ns ⌈/⌉ wait.interval.ns,
      pending (world.answerAt request wait state m) = true)
    (hlooks : left.ns ⌈/⌉ wait.interval.ns < looks) :
    world.watch request pending looks wait state =
      (.expired, (world.answer request
        (world.beforeLook request wait state (left.ns ⌈/⌉ wait.interval.ns))).2) := by
  obtain ⟨more, rfl⟩ := Nat.exists_eq_add_of_lt hlooks
  have hlast : pending (world.answer request
      (world.beforeLook request wait state (left.ns ⌈/⌉ wait.interval.ns))).1 = true :=
    hpending _ (Nat.le_refl _)
  rw [Nat.add_assoc, Nat.add_comm, World.watch_of_pending
    (fun m hm => hpending m (Nat.le_of_lt hm)) (Wait.lasts_of_le hleft (Nat.le_refl _))]
  simp only [World.watch, hlast, ↓reduceIte, Wait.pause?_after_last hleft hinterval]

theorem World.watch_of_unfinished (hleft : wait.left = none)
    (hpending : ∀ m < looks, pending (world.answerAt request wait state m) = true) :
    world.watch request pending looks wait state =
      (.unfinished, world.beforeLook request wait state looks) := by
  have hall : world.watch request pending (0 + looks) wait state =
      world.watch request pending 0 (wait.after looks)
        (world.beforeLook request wait state looks) :=
    World.watch_of_pending hpending (Wait.lasts_of_endless hleft looks)
  rw [Nat.zero_add] at hall
  rw [hall]
  rfl

end Looks

/-! ### Histories of looks -/

section Recording

variable {world : World Request Answer σ} {request : Request} {wait : Wait} {state : σ}
  {history : History Request Answer}

theorem World.beforeLook_recording (n : Nat) :
    world.recording.beforeLook request wait (state, history) n =
      (world.beforeLook request wait state n,
        history ++ wait.course request (world.answerAt request wait state) n) := by
  induction n with
  | zero => exact Prod.ext rfl (List.append_nil _).symm
  | succ n ih =>
    simp only [World.beforeLook, ih, World.recording_answer, World.recording_sleep,
      Wait.course_succ, List.append_assoc, List.cons_append, List.nil_append]
    rfl

theorem World.answerAt_recording (n : Nat) :
    world.recording.answerAt request wait (state, history) n =
      world.answerAt request wait state n := by
  rw [World.answerAt, World.beforeLook_recording]
  rfl

theorem World.answer_beforeLook_recording (n : Nat) :
    (world.recording.answer request
        (world.recording.beforeLook request wait (state, history) n)).2 =
      ((world.answer request (world.beforeLook request wait state n)).2,
        history ++ (wait.course request (world.answerAt request wait state) n ++
          [.asked request (world.answerAt request wait state n)])) := by
  rw [World.beforeLook_recording, World.recording_answer, List.append_assoc]
  rfl

/-! ### Ends of waits -/

variable {judge : Answer request → Except ε Bool} {overdue : ε} {n patience : Nat}

/-- Whether the judge has not come to a decision yet. -/
def isPending (judge : Answer request → Except ε Bool) (answer : Answer request) : Bool :=
  match judge answer with
  | .ok false => true
  | _ => false

theorem isPending_iff {answer : Answer request} :
    isPending judge answer = true ↔ judge answer = .ok false := by
  unfold isPending
  rcases judge answer with e | _ | _ <;> simp

theorem isPending_answerAt :
    isPending judge (world.recording.answerAt request wait (state, history) n) = true ↔
      judge (world.answerAt request wait state n) = .ok false := by
  rw [World.answerAt_recording, isPending_iff]

theorem pollUntil_eq :
    pollUntil wait request judge overdue =
      .poll wait request (isPending judge) (fun answer => ofExcept ((judge answer).map fun _ => ()))
        (.fail overdue) := by
  simp only [pollUntil]
  congr 1
  funext answer
  rcases judge answer with e | accepted <;> rfl

/-- The first answer that is not pending ends the wait. -/
theorem run_pollUntil_judged
    (hpending : ∀ m < n, judge (world.answerAt request wait state m) = .ok false)
    (hjudged : judge (world.answerAt request wait state n) ≠ .ok false) (hlasts : wait.Lasts n)
    (hlooks : n < wait.looks patience) :
    (pollUntil wait request judge overdue).run world.recording patience (state, history) =
      (some ((judge (world.answerAt request wait state n)).map fun _ => ()),
        (world.answer request (world.beforeLook request wait state n)).2,
        history ++ (wait.course request (world.answerAt request wait state) n ++
          [.asked request (world.answerAt request wait state n)])) := by
  have hseen : isPending judge (world.recording.answerAt request wait (state, history) n) =
      false :=
    Bool.eq_false_iff.mpr fun h => hjudged (isPending_answerAt.mp h)
  have hrecorded : ∀ m < n,
      isPending judge (world.recording.answerAt request wait (state, history) m) = true :=
    fun m hm => isPending_answerAt.mpr (hpending m hm)
  rw [pollUntil_eq, run, World.watch_of_seen hrecorded hseen hlasts hlooks,
    World.answer_beforeLook_recording, World.answerAt_recording]
  exact run_ofExcept _ _

/-- If the look at the deadline still finds the answer pending, the wait is over. -/
theorem run_pollUntil_overdue {left : Duration} (hleft : wait.left = some left)
    (hinterval : 0 < wait.interval.ns)
    (hpending : ∀ m ≤ left.ns ⌈/⌉ wait.interval.ns,
      judge (world.answerAt request wait state m) = .ok false) :
    (pollUntil wait request judge overdue).run world.recording patience (state, history) =
      (some (.error overdue),
        (world.answer request
          (world.beforeLook request wait state (left.ns ⌈/⌉ wait.interval.ns))).2,
        history ++ (wait.course request (world.answerAt request wait state)
            (left.ns ⌈/⌉ wait.interval.ns) ++
          [.asked request (world.answerAt request wait state (left.ns ⌈/⌉ wait.interval.ns))])) := by
  have hlooks : left.ns ⌈/⌉ wait.interval.ns < wait.looks patience :=
    (Wait.lasts_of_le hleft (Nat.le_refl _)).lt_looks hleft hinterval
  have hrecorded : ∀ m ≤ left.ns ⌈/⌉ wait.interval.ns,
      isPending judge (world.recording.answerAt request wait (state, history) m) = true :=
    fun m hm => isPending_answerAt.mpr (hpending m hm)
  rw [pollUntil_eq, run, World.watch_of_expired hleft hinterval hrecorded hlooks,
    World.answer_beforeLook_recording]
  rfl

/-- A wait without end on an answer that stays pending is broken off when the patience is used
up. -/
theorem run_pollUntil_unfinished (hleft : wait.left = none)
    (hpending : ∀ m < patience, judge (world.answerAt request wait state m) = .ok false) :
    (pollUntil wait request judge overdue).run world.recording patience (state, history) =
      (none, world.beforeLook request wait state patience,
        history ++ wait.course request (world.answerAt request wait state) patience) := by
  have hlooks : wait.looks patience = patience := by
    simp only [Wait.looks, hleft]
  have hrecorded : ∀ m < patience,
      isPending judge (world.recording.answerAt request wait (state, history) m) = true :=
    fun m hm => isPending_answerAt.mpr (hpending m hm)
  rw [pollUntil_eq, run, hlooks, World.watch_of_unfinished hleft hrecorded,
    World.beforeLook_recording]

end Recording

end Script

end Groundwork
