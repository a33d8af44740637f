import Mathlib.Order.Bounds.Basic
import Groundwork.DeployError
import Groundwork.Proofs.Script.Finishing

/-!
# Polling is exact

`polled` is polling against an outside that recites an infinite sequence of answers: what comes of
it, how many answers it takes, and what happens.  Time is what is slept.

A wait within a budget comes to an end at the first answer that is a decision, or at the look which
is made when the budget is used up.  `LooksBy` is the timetable of its looks and pauses: the look
number `n` is made after `n` intervals or at the deadline, and each pause begins before the deadline
and lasts for what is left until then, if the interval is longer.  If the budget is too long for a
deadline, there is a look after each interval (`LooksEvery`) until there is a decision.
`polled_exact` says which of these comes to pass.
-/

namespace Groundwork

open Script

namespace Script

variable {Request : Type} {Answer : Request → Type}

/-! ### Answers one after the other -/

/-- The outside that gives these answers one after the other.  Its state is the number of those it
has given. -/
def World.reciting (answers : Nat → (request : Request) → Answer request) :
    World Request Answer Nat where
  answer request n := (answers n request, n + 1)
  sleep _ n := n

section Reciting

variable {answers : Nat → (request : Request) → Answer request} {request : Request} {wait : Wait}

theorem World.beforeLook_reciting (n : Nat) :
    (World.reciting answers).beforeLook request wait 0 n = n := by
  induction n with
  | zero => rfl
  | succ n ih =>
    show (World.reciting answers).beforeLook request wait 0 n + 1 = n + 1
    rw [ih]

theorem World.answerAt_reciting :
    (World.reciting answers).answerAt request wait 0 = fun n => answers n request := by
  funext n
  rw [World.answerAt, World.beforeLook_reciting]
  rfl

end Reciting

/-! ### Timetables -/

namespace History

/-- After how many nanoseconds each request was made. -/
def times : History Request Answer → List Nat
  | [] => []
  | .asked _ _ :: rest => 0 :: times rest
  | .slept time :: rest => (times rest).map (time.ns + ·)

theorem times_append (before later : History Request Answer) :
    times (before ++ later) = times before ++ (times later).map (slept before + ·) := by
  induction before with
  | nil => simp [times, slept]
  | cons o rest ih =>
    cases o with
    | asked request answer =>
      show 0 :: times (rest ++ later) = 0 :: times rest ++ (times later).map (slept rest + ·)
      rw [ih, List.cons_append]
    | slept time =>
      show (times (rest ++ later)).map (time.ns + ·) =
        (times rest).map (time.ns + ·) ++ (times later).map (time.ns + slept rest + ·)
      rw [ih, List.map_append, List.map_map]
      simp only [Function.comp_def, Nat.add_assoc]

end History

/-- If this is a pause, it begins before the deadline, and it is the interval or all that is left. -/
def PausesWithin (interval budget : Duration) (before : History Request Answer)
    (o : Occurrence Request Answer) : Prop :=
  ∀ time, o = .slept time →
    before.slept < budget.ns ∧ time.ns = min interval.ns (budget.ns - before.slept)

/-- So many looks, each of them after the intervals before it or at the deadline, with pauses that
do not go beyond it. -/
structure LooksBy (interval budget : Duration) (looks : Nat) (history : History Request Answer) :
    Prop where
  times : history.times = (List.range looks).map fun n => min (n * interval.ns) budget.ns
  pauses : history.Obeys (PausesWithin interval budget)

/-- So many looks, each of them after the intervals before it. -/
def LooksEvery (interval : Duration) (looks : Nat) (history : History Request Answer) : Prop :=
  history.times = (List.range looks).map fun n => n * interval.ns

section Course

variable {wait : Wait} {request : Request} {answers : Nat → Answer request} {n : Nat}

theorem times_course :
    (wait.course request answers n).times = (List.range n).map wait.lookTime := by
  induction n with
  | zero => rfl
  | succ n ih =>
    rw [Wait.course_succ, History.times_append, ih, slept_course, List.range_succ, List.map_append]
    rfl

theorem times_course_look :
    History.times (wait.course request answers n ++ [.asked request (answers n)]) =
      (List.range (n + 1)).map wait.lookTime := by
  rw [History.times_append, times_course, slept_course, List.range_succ, List.map_append]
  rfl

/-- A pause is made only while time is left, and takes no more of it than there is. -/
theorem obeys_course {left : Duration} (hleft : wait.left = some left) (hlasts : wait.Lasts n) :
    (wait.course request answers n).Obeys (PausesWithin wait.interval left) := by
  induction n with
  | zero => exact History.obeys_nil
  | succ n ih =>
    rw [Wait.course_succ, ← List.singleton_append, ← List.append_assoc]
    apply History.Obeys.append
    · exact (ih (hlasts.mono (Nat.le_succ n))).append fun _ h => nomatch h
    · rintro time ⟨⟩
      have hlt : n * wait.interval.ns < left.ns := hlasts.mul_lt hleft
      rw [slept_course_look, Wait.lookTime_of_left hleft, Nat.min_eq_left (Nat.le_of_lt hlt)]
      simp only [Wait.pauseAfter, hleft]
      rw [Duration.ns_shorter, Duration.ns_minus_scale]
      exact ⟨hlt, rfl⟩

theorem looksBy_course {left : Duration} (hleft : wait.left = some left) (hlasts : wait.Lasts n) :
    LooksBy wait.interval left (n + 1)
      (wait.course request answers n ++ [.asked request (answers n)]) where
  times := by
    rw [times_course_look]
    exact List.map_congr_left fun m _ => Wait.lookTime_of_left hleft m
  pauses := (obeys_course hleft hlasts).append fun _ h => nomatch h

theorem looksEvery_course (hleft : wait.left = none) :
    LooksEvery wait.interval n (wait.course request answers n) := by
  rw [LooksEvery, times_course]
  exact List.map_congr_left fun m _ => Wait.lookTime_of_endless hleft m

theorem looksEvery_course_look (hleft : wait.left = none) :
    LooksEvery wait.interval (n + 1)
      (wait.course request answers n ++ [.asked request (answers n)]) := by
  rw [LooksEvery, times_course_look]
  exact List.map_congr_left fun m _ => Wait.lookTime_of_endless hleft m

end Course

/-! ### Polling -/

section Polling

variable {interval budget : Duration} {request : Request}
  {judge : Answer request → Except DeployError Bool}
  {answers : Nat → (request : Request) → Answer request} {patience k : Nat}

/-- What comes of polling an outside that gives these answers one after the other, the number of
answers that it takes, and what happens. -/
def polled (interval budget : Duration) (request : Request)
    (judge : Answer request → Except DeployError Bool)
    (answers : Nat → (request : Request) → Answer request) (patience : Nat) :
    Option (Except DeployError Unit) × Nat × History Request Answer :=
  Script.run (World.reciting answers).recording patience
    (pollUntil (Wait.within interval budget) request judge (.timeout budget)) (0, [])

/-- The numbers of the answers that are decisions. -/
def decisions (judge : Answer request → Except DeployError Bool)
    (answers : Nat → (request : Request) → Answer request) : Set Nat :=
  {n | judge (answers n request) ≠ .ok false}

theorem eq_of_not_decision {wait : Wait} {n : Nat} (h : n ∉ decisions judge answers) :
    judge ((World.reciting answers).answerAt request wait 0 n) = .ok false := by
  rw [World.answerAt_reciting]
  exact not_not.mp h

theorem polled_of_decision (hfirst : IsLeast (decisions judge answers) k)
    (hlasts : (Wait.within interval budget).Lasts k)
    (hlooks : k < (Wait.within interval budget).looks patience) :
    polled interval budget request judge answers patience =
      (some ((judge (answers k request)).map fun _ => ()), k + 1,
        (Wait.within interval budget).course request (fun n => answers n request) k ++
          [.asked request (answers k request)]) := by
  have hdecided : judge ((World.reciting answers).answerAt request (Wait.within interval budget) 0
      k) ≠ .ok false := by
    rw [World.answerAt_reciting]
    exact hfirst.1
  have hpending : ∀ m < k, m ∉ decisions judge answers :=
    fun m hm hdecision => Nat.not_le_of_lt hm (hfirst.2 hdecision)
  rw [polled, run_pollUntil_judged (fun m hm => eq_of_not_decision (hpending m hm)) hdecided
    hlasts hlooks, World.answerAt_reciting, World.beforeLook_reciting]
  rfl

theorem polled_of_deadline (hinterval : 0 < interval.ns)
    (hleft : (Wait.within interval budget).left = some budget)
    (hpending : ∀ n ≤ budget.ns ⌈/⌉ interval.ns, n ∉ decisions judge answers) :
    polled interval budget request judge answers patience =
      (some (.error (.timeout budget)), budget.ns ⌈/⌉ interval.ns + 1,
        (Wait.within interval budget).course request (fun n => answers n request)
            (budget.ns ⌈/⌉ interval.ns) ++
          [.asked request (answers (budget.ns ⌈/⌉ interval.ns) request)]) := by
  rw [polled, run_pollUntil_overdue hleft hinterval fun n hn => eq_of_not_decision (hpending n hn),
    World.answerAt_reciting, World.beforeLook_reciting]
  rfl

theorem polled_of_endless (hleft : (Wait.within interval budget).left = none)
    (hpending : ∀ n < patience, n ∉ decisions judge answers) :
    polled interval budget request judge answers patience =
      (none, patience,
        (Wait.within interval budget).course request (fun n => answers n request) patience) := by
  rw [polled, run_pollUntil_unfinished hleft fun n hn => eq_of_not_decision (hpending n hn),
    World.answerAt_reciting, World.beforeLook_reciting]
  rfl

/-- Polling is exact.  Within a budget that a deadline can hold, the first decision ends it, if the
looks come so far: the last of them is made at the deadline, and its number is the budget divided by
the interval, rounded up.  Then the decision is the outcome.  If that look finds no decision either,
the outcome is that the budget is used up, exactly at the deadline.  With a longer budget there is a
look after each interval until there is a decision, and the budget is never used up. -/
theorem polled_exact (hinterval : 0 < interval.ns) (budget : Duration) (request : Request)
    (judge : Answer request → Except DeployError Bool)
    (answers : Nat → (request : Request) → Answer request) (patience : Nat) :
    (budget.seconds < Wait.endlessSeconds →
      (∀ k ≤ budget.ns ⌈/⌉ interval.ns, IsLeast (decisions judge answers) k →
        ∃ history, polled interval budget request judge answers patience =
            (some ((judge (answers k request)).map fun _ => ()), k + 1, history) ∧
          LooksBy interval budget (k + 1) history ∧
          history.slept = min (k * interval.ns) budget.ns) ∧
      ((∀ n ≤ budget.ns ⌈/⌉ interval.ns, n ∉ decisions judge answers) →
        ∃ history, polled interval budget request judge answers patience =
            (some (.error (.timeout budget)), budget.ns ⌈/⌉ interval.ns + 1, history) ∧
          LooksBy interval budget (budget.ns ⌈/⌉ interval.ns + 1) history ∧
          history.slept = budget.ns)) ∧
    (Wait.endlessSeconds ≤ budget.seconds →
      (∀ k < patience, IsLeast (decisions judge answers) k →
        ∃ history, polled interval budget request judge answers patience =
            (some ((judge (answers k request)).map fun _ => ()), k + 1, history) ∧
          LooksEvery interval (k + 1) history ∧ history.slept = k * interval.ns) ∧
      ((∀ n < patience, n ∉ decisions judge answers) →
        ∃ history, polled interval budget request judge answers patience =
            (none, patience, history) ∧ LooksEvery interval patience history)) := by
  constructor
  · intro hbudget
    have hleft := Wait.left_within_of_lt hbudget interval
    constructor
    · intro k hk hfirst
      have hlasts : (Wait.within interval budget).Lasts k := Wait.lasts_of_le hleft hk
      refine ⟨_, polled_of_decision hfirst hlasts (hlasts.lt_looks hleft hinterval),
        looksBy_course hleft hlasts, ?_⟩
      rw [slept_course_look, Wait.lookTime_of_left hleft]
      rfl
    · intro hpending
      have hlasts : (Wait.within interval budget).Lasts (budget.ns ⌈/⌉ interval.ns) :=
        Wait.lasts_of_le hleft (Nat.le_refl _)
      refine ⟨_, polled_of_deadline hinterval hleft hpending, looksBy_course hleft hlasts, ?_⟩
      rw [slept_course_look]
      exact Wait.lookTime_last hleft hinterval
  · intro hbudget
    have hleft : (Wait.within interval budget).left = none := by
      rw [Wait.within, if_neg (Nat.not_lt_of_le hbudget)]
    constructor
    · intro k hk hfirst
      have hlooks : k < (Wait.within interval budget).looks patience := by
        simpa only [Wait.looks, hleft] using hk
      refine ⟨_, polled_of_decision hfirst (Wait.lasts_of_endless hleft k) hlooks,
        looksEvery_course_look hleft, ?_⟩
      rw [slept_course_look, Wait.lookTime_of_endless hleft]
      rfl
    · intro hpending
      exact ⟨_, polled_of_endless hleft hpending, looksEvery_course hleft⟩

/-- Looking every three seconds for ten: the last of five looks is made at the deadline, one second
after the one before. -/
theorem polled_exact_ten_seconds :
    ∃ history : History Unit fun _ => Except DeployError Bool,
      polled (.ofSeconds 3) (.ofSeconds 10) () id (fun _ _ => .ok false) 0 =
        (some (.error (.timeout (.ofSeconds 10))), 5, history) ∧
      history.times = [0, 3000000000, 6000000000, 9000000000, 10000000000] ∧
      history.slept = 10000000000 := by
  have hinterval : 0 < (Duration.ofSeconds 3).ns := by decide
  have hlast : (Duration.ofSeconds 10).ns ⌈/⌉ (Duration.ofSeconds 3).ns = 4 := by
    decide
  obtain ⟨hbounded, -⟩ := @polled_exact Unit (fun _ => Except DeployError Bool) _ hinterval
    (.ofSeconds 10) () id (fun _ _ => .ok false) 0
  obtain ⟨history, hpolled, hlooks, hslept⟩ :=
    (hbounded (by decide)).2 fun _ _ hdecision => hdecision rfl
  rw [hlast] at hpolled hlooks
  exact ⟨history, hpolled, hlooks.times, hslept⟩

end Polling

end Script

end Groundwork
