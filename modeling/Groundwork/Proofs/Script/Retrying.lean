import Mathlib.Order.Bounds.Basic
import Groundwork.DeployError
import Groundwork.Proofs.Script.Finishing

/-!
# Trying again is exact

`Trial.tried` is an attempt that is tried again as a policy allows, against an outside that gives an
infinite sequence of results and a predicate on messages: what comes of it, how many attempts are
made, and what happens.  An attempt that fails, may be followed by another one and whose message the
predicate accepts is `Retried`; the attempts stop with the first that is not (`stops`).

Attempts that are retried run off one after the other (`run_retryLoop_retried`), each with one
question and one pause behind it (`course`), and the one that stops them gives its result, with a
question behind it only where there might be another attempt (`run_retryLoop_stopped`).
`tried_exact` puts this together.
-/

namespace Groundwork

open Script

/-- What is asked of the outside: to attempt something, or whether a failure with this message may
pass. -/
inductive Trial where
  | attempt
  | mayPass (message : String)

/-- An attempt ends with a result or an error, a question is answered with yes or no. -/
abbrev Trial.Answer (α : Type) : Trial → Type
  | .attempt => Except DeployError α
  | .mayPass _ => Bool

namespace Trial

variable {α : Type} {results : Nat → Except DeployError α} {mayPass : String → Bool}
  {policy : RetryPolicy} {delay : Duration} {again n patience : Nat}
  {history : History Trial (Answer α)} {e : DeployError}

/-- The outside whose attempts give these results one after the other, and in which the predicate
answers the questions.  Its state is the number of attempts so far. -/
def outside (results : Nat → Except DeployError α) (mayPass : String → Bool) :
    World Trial (Answer α) Nat where
  answer
    | .attempt, n => (results n, n + 1)
    | .mayPass message, n => (mayPass message, n)
  sleep _ n := n

/-- One attempt. -/
def once : Script Trial (Answer α) DeployError α :=
  .ask .attempt Script.ofExcept

/-- Asks whether a failure may pass. -/
def question (e : DeployError) : Script Trial (Answer α) DeployError Bool :=
  .ask (.mayPass e.message) .done

/-- What comes of trying as often as the policy allows, the number of attempts, and what happens. -/
def tried (policy : RetryPolicy) (results : Nat → Except DeployError α) (mayPass : String → Bool)
    (patience : Nat) : Option (Except DeployError α) × Nat × History Trial (Answer α) :=
  (retryIf policy question once).run (outside results mayPass).recording patience (0, [])

/-- The most attempts that are made. -/
def limit (policy : RetryPolicy) : Nat :=
  max 1 policy.maxAttempts.toNat

/-- The message of a failure. -/
def message? : Except DeployError α → Option String
  | .ok _ => none
  | .error e => some e.message

/-- The messages that the outside was asked about, in order. -/
def questions (history : History Trial (Answer α)) : List String :=
  history.filterMap fun
    | .asked (.mayPass message) _ => some message
    | _ => none

/-- The numbers of the attempts that are the last if they are made: those that succeed, those whose
failure does not pass, and the last that the policy allows. -/
def stops (policy : RetryPolicy) (results : Nat → Except DeployError α)
    (mayPass : String → Bool) : Set Nat :=
  {n | (∃ a, results n = .ok a) ∨ (∃ e, results n = .error e ∧ mayPass e.message = false) ∨
    n = limit policy - 1}

/-! ### Attempts that are retried -/

/-- The attempt fails, and its failure may pass. -/
def Retried (results : Nat → Except DeployError α) (mayPass : String → Bool) (n : Nat) : Prop :=
  ∃ e, results n = .error e ∧ mayPass e.message = true

theorem retried_of_not_mem_stops (h : n ∉ stops policy results mayPass) :
    Retried results mayPass n := by
  rcases hresult : results n with e | a
  · exact ⟨e, hresult, eq_true_of_ne_false fun hfalse => h (Or.inr (Or.inl ⟨e, hresult, hfalse⟩))⟩
  · exact absurd (Or.inl ⟨a, hresult⟩) h

theorem last_of_retried (h : Retried results mayPass n) (hstop : n ∈ stops policy results mayPass) :
    n = limit policy - 1 := by
  obtain ⟨e, he, hpass⟩ := h
  rcases hstop with ⟨a, ha⟩ | ⟨e', he', hfalse⟩ | hlast
  · rw [he] at ha
    cases ha
  · rw [he] at he'
    cases he'
    rw [hpass] at hfalse
    cases hfalse
  · exact hlast

/-- The first `n` attempts, each with the question about its failure and the pause after it. -/
def course (delay : Duration) (results : Nat → Except DeployError α) (n : Nat) :
    History Trial (Answer α) :=
  (List.range n).flatMap fun m =>
    .asked .attempt (results m) ::
      match results m with
      | .ok _ => []
      | .error e => [.asked (.mayPass e.message) true, .slept delay]

theorem course_succ (h : results n = .error e) :
    course delay results (n + 1) = course delay results n ++
      [.asked .attempt (results n), .asked (.mayPass e.message) true, .slept delay] := by
  rw [course, List.range_succ, List.flatMap_append, List.flatMap_singleton, h]
  rfl

theorem questions_append (before later : History Trial (Answer α)) :
    questions (before ++ later) = questions before ++ questions later :=
  List.filterMap_append

theorem questions_course (h : ∀ m < n, Retried results mayPass m) :
    questions (course delay results n) = (List.range n).filterMap fun m => message? (results m) := by
  induction n with
  | zero => rfl
  | succ n ih =>
    obtain ⟨e, he, -⟩ := h n (Nat.lt_succ_self n)
    rw [course_succ he, questions_append, ih fun m hm => h m (Nat.lt_succ_of_lt hm), List.range_succ,
      List.filterMap_append]
    simp [questions, message?, he]

theorem slept_course (h : ∀ m < n, Retried results mayPass m) :
    (course delay results n).slept = n * delay.ns := by
  induction n with
  | zero => exact (Nat.zero_mul _).symm
  | succ n ih =>
    obtain ⟨e, he, -⟩ := h n (Nat.lt_succ_self n)
    rw [course_succ he, History.slept_append, ih fun m hm => h m (Nat.lt_succ_of_lt hm),
      Nat.succ_mul]
    rfl

theorem run_once :
    (once : Script Trial (Answer α) DeployError α).run (outside results mayPass).recording patience
        (n, history) =
      (some (results n), n + 1, history ++ [.asked .attempt (results n)]) := by
  rw [once, run]
  exact run_ofExcept _ _

theorem run_question :
    (question e : Script Trial (Answer α) DeployError Bool).run
        (outside results mayPass).recording patience (n, history) =
      (some (.ok (mayPass e.message)), n,
        history ++ [.asked (.mayPass e.message) (mayPass e.message)]) := rfl

theorem run_retryLoop_error (he : results n = .error e) (hpass : mayPass e.message = true) :
    (retryLoop delay question once (again + 1)).run (outside results mayPass).recording patience
        (n, history) =
      (retryLoop delay question once again).run (outside results mayPass).recording patience
        (n + 1, history ++
          [.asked .attempt (results n), .asked (.mayPass e.message) true, .slept delay]) := by
  rw [retryLoop, run_handle_some run_once, he]
  simp only [andThen]
  rw [run_handle_some run_question, hpass]
  simp only [run, World.recording_sleep, List.append_assoc]
  rfl

/-- Attempts that are retried lead to the next one, if there are so many. -/
theorem run_retryLoop_retried (h : ∀ m < n, Retried results mayPass m) :
    (retryLoop delay question once (again + n)).run (outside results mayPass).recording patience
        (0, []) =
      (retryLoop delay question once again).run (outside results mayPass).recording patience
        (n, course delay results n) := by
  induction n generalizing again with
  | zero => rfl
  | succ n ih =>
    obtain ⟨e, he, hpass⟩ := h n (Nat.lt_succ_self n)
    have hbefore : ∀ m < n, Retried results mayPass m := fun m hm => h m (Nat.lt_succ_of_lt hm)
    -- after the attempts before, the last of them still has one more behind it
    rw [← Nat.add_assoc, Nat.add_right_comm, ih hbefore, run_retryLoop_error he hpass,
      course_succ he]

/-- What is asked about the result of the last attempt, if so many others are allowed. -/
def verdict : Nat → Except DeployError α → History Trial (Answer α)
  | _ + 1, .error e => [.asked (.mayPass e.message) false]
  | _, _ => []

/-- A success ends the attempts, and so does a failure that does not pass or the end of the
policy. -/
theorem run_retryLoop_stopped (hstop : Retried results mayPass n → again = 0) :
    (retryLoop delay question once again).run (outside results mayPass).recording patience
        (n, history) =
      (some (results n), n + 1,
        history ++ .asked .attempt (results n) :: verdict again (results n)) := by
  rcases again with _ | again
  · exact run_once
  · rw [retryLoop, run_handle_some run_once]
    rcases hresult : results n with e | a
    · have hfalse : mayPass e.message = false :=
        Bool.eq_false_iff.mpr fun hpass => nomatch hstop ⟨e, hresult, hpass⟩
      simp only [andThen]
      rw [run_handle_some run_question, hfalse, List.append_assoc]
      rfl
    · rfl

theorem questions_verdict :
    questions (.asked .attempt (results n) :: verdict again (results n)) =
      if 0 < again then (message? (results n)).toList else [] := by
  rcases again with _ | again
  · rfl
  · rw [if_pos (Nat.succ_pos again)]
    rcases results n with e | a <;> rfl

theorem slept_verdict :
    History.slept (.asked .attempt (results n) :: verdict again (results n)) = 0 := by
  rcases again with _ | again
  · rfl
  · rcases results n with e | a <;> rfl

/-- The attempts come to an end. -/
theorem exists_isLeast_stops (policy : RetryPolicy) (results : Nat → Except DeployError α)
    (mayPass : String → Bool) :
    ∃ k, IsLeast (stops policy results mayPass) k ∧ k + 1 ≤ limit policy := by
  have hlimit : 1 ≤ limit policy := Nat.le_max_left _ _
  rcases exists_first_or_none (· ∈ stops policy results mayPass) (limit policy - 1) with
    ⟨k, hk, hstop, hfirst⟩ | hnone
  · exact ⟨k, ⟨hstop, fun m hm => Nat.le_of_not_lt fun hlt => hfirst m hlt hm⟩, by omega⟩
  · exact absurd (Or.inr (Or.inr rfl)) (hnone _ (Nat.le_refl _))

/-- Trying again is exact.  The attempts end with the first one that succeeds, whose failure does
not pass, or that is the last one allowed, and with its result.  The outside is asked once about
each failure before it, in order, and about its own failure only if it is not the last one
allowed.  Between two attempts there is one delay. -/
theorem tried_exact (policy : RetryPolicy) (results : Nat → Except DeployError α)
    (mayPass : String → Bool) (patience : Nat) :
    ∃ k, IsLeast (stops policy results mayPass) k ∧ k + 1 ≤ limit policy ∧
      (∀ n < k, ∃ e, results n = .error e) ∧
      ∃ history,
        tried policy results mayPass patience = (some (results k), k + 1, history) ∧
        questions history =
          (List.range k).filterMap (fun n => message? (results n)) ++
            (if k + 1 < limit policy then (message? (results k)).toList else []) ∧
        history.slept = k * policy.delay.ns := by
  obtain ⟨k, hleast, hk⟩ := exists_isLeast_stops policy results mayPass
  have hretried : ∀ n < k, Retried results mayPass n := fun n hn =>
    retried_of_not_mem_stops fun hstop => Nat.not_le_of_lt hn (hleast.2 hstop)
  -- as many more attempts would be allowed, and if the last one is retried there are none
  obtain ⟨again, hlimit⟩ : ∃ again, limit policy = again + k + 1 :=
    ⟨limit policy - (k + 1), by omega⟩
  have hlast : Retried results mayPass k → again = 0 := fun h => by
    have := last_of_retried h hleast.1
    omega
  have hrun : tried policy results mayPass patience = (some (results k), k + 1,
      course policy.delay results k ++ .asked .attempt (results k) :: verdict again (results k)) := by
    have hagain : max policy.maxAttempts.toNat 1 - 1 = again + k := by
      rw [Nat.max_comm, ← limit, hlimit, Nat.add_sub_cancel]
    rw [tried, retryIf, hagain, run_retryLoop_retried hretried, run_retryLoop_stopped hlast]
  refine ⟨k, hleast, hk, fun n hn => ?_, _, hrun, ?_, ?_⟩
  · obtain ⟨e, he, -⟩ := hretried n hn
    exact ⟨e, he⟩
  · rw [questions_append, questions_course hretried, questions_verdict, hlimit]
    simp only [Nat.add_lt_add_iff_right, Nat.lt_add_left_iff_pos]
  · rw [History.slept_append, slept_course hretried, slept_verdict, Nat.add_zero]

end Trial

end Groundwork
