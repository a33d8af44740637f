import Groundwork.Proofs.Engine.Stages
import Groundwork.Proofs.Script.Polling

/-!
# Looking at the cluster until a look decides

`Engine.pollUntil` calls the cluster once a second.  `Polled` is what comes of it when the budget
has a deadline: the first look that decides, by what it finds or because it fails, ends the wait no
later than the deadline.  If none of them does, up to the one at the deadline, the budget is used
up; then the looks are all those of the timetable `LooksBy`.
-/

namespace Groundwork.Engine

open Cluster Script

variable {c : Call} {judge : c.Found → Except DeployError Bool} {budget : Duration}
  {outcome : Except DeployError Unit} {history : WorkHistory}

/-- A pause, or a look that found nothing to end the wait. -/
def Undecided (c : Call) (judge : c.Found → Except DeployError Bool)
    (o : Occurrence Action Action.Answer) : Prop :=
  (∃ time, o = .slept time) ∨ ∃ found, judge found = .ok false ∧ o = response c found

/-- What comes of a wait for the cluster, and what happens meanwhile. -/
inductive Polled (c : Call) (judge : c.Found → Except DeployError Bool) (budget : Duration) :
    Except DeployError Unit → WorkHistory → Prop
  | decided {before : WorkHistory} {answer : Except DeployError c.Found}
    (hbefore : ∀ o ∈ before, Undecided c judge o) (htime : before.slept ≤ budget.ns)
    (hdecided : answer.bind judge ≠ .ok false) :
    Polled c judge budget ((answer.bind judge).map fun _ => ())
      (before ++ [.asked (.call c) answer])
  | overdue {before : WorkHistory} {found : c.Found}
    (hbefore : ∀ o ∈ before, Undecided c judge o) (htime : before.slept = budget.ns)
    (hlooks : LooksBy pollInterval budget (budget.ns ⌈/⌉ pollInterval.ns + 1)
      (before ++ [response c found]))
    (hfound : judge found = .ok false) :
    Polled c judge budget (.error (.timeout budget)) (before ++ [response c found])

theorem exists_of_bind_eq_false {answer : Except DeployError c.Found}
    (h : answer.bind judge = .ok false) : ∃ found, judge found = .ok false ∧ answer = .ok found := by
  obtain ⟨found, hanswer, hjudge⟩ := bind_eq_ok.mp h
  exact ⟨found, hjudge, hanswer⟩

theorem undecided_of_mem_course {wait : Wait} {n : Nat} {answers : Nat → Action.Answer (.call c)}
    (h : ∀ m < n, (answers m).bind judge = .ok false) {o : Occurrence Action Action.Answer}
    (ho : o ∈ wait.course (.call c) answers n) : Undecided c judge o := by
  rcases Wait.mem_course ho with ⟨m, hm, rfl⟩ | hpause
  · obtain ⟨found, hfound, hanswer⟩ := exists_of_bind_eq_false (h m hm)
    rw [hanswer]
    exact Or.inr ⟨found, hfound, rfl⟩
  · exact Or.inl hpause

/-- A wait with a deadline comes to one of its two ends. -/
theorem finishes_pollUntil (hbudget : budget.seconds < Wait.endlessSeconds) (c : Call)
    (judge : c.Found → Except DeployError Bool) :
    Finishes (pollUntil budget c judge) (Polled c judge budget) := by
  have hleft := Wait.left_within_of_lt hbudget pollInterval
  have hinterval : 0 < (Wait.within pollInterval budget).interval.ns := by
    show 0 < pollInterval.ns
    decide
  apply Finishes.pollUntil hleft hinterval
  · intro answers n hbefore hdecided
    apply Polled.decided (fun o ho => undecided_of_mem_course hbefore ho) _ hdecided
    rw [slept_course, Wait.lookTime_of_left hleft]
    exact Nat.min_le_right _ _
  · intro answers (hpending : ∀ m ≤ budget.ns ⌈/⌉ pollInterval.ns, _)
    have hlooks : LooksBy pollInterval budget (budget.ns ⌈/⌉ pollInterval.ns + 1)
        ((Wait.within pollInterval budget).course _ answers (budget.ns ⌈/⌉ pollInterval.ns) ++
          [.asked (.call c) (answers (budget.ns ⌈/⌉ pollInterval.ns))]) :=
      looksBy_course hleft (Wait.lasts_of_le hleft (Nat.le_refl _))
    obtain ⟨found, hfound, hanswer⟩ := exists_of_bind_eq_false (hpending _ (Nat.le_refl _))
    rw [hanswer] at hlooks
    show Polled c judge budget _ (_ ++ [.asked (.call c) (answers (budget.ns ⌈/⌉ pollInterval.ns))])
    rw [hanswer]
    refine .overdue (fun o ho => ?_) ?_ hlooks hfound
    · exact undecided_of_mem_course (fun m hm => hpending m (Nat.le_of_lt hm)) ho
    · rw [slept_course]
      exact Wait.lookTime_last hleft hinterval

end Groundwork.Engine
