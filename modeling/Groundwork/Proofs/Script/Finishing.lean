import Groundwork.Proofs.Script.Evidence
import Groundwork.Proofs.Script.Looking

/-!
# Scripts that finish

`Finishes s post` says that the script `s` comes to an end in whatever world it is played, and that
`post` holds of its outcome and of what has happened since its beginning; it says so of failures
too.  Nothing but a wait can keep a script from finishing, and one that has a deadline and pauses
between its looks comes to its end (`Finishes.pollUntil`).

`Takes s n` is the case in which only time matters: the script finishes after it has slept for `n`
nanoseconds at most.  Times add up along a script (`Takes.andThen`), a wait takes no longer than its
deadline (`Takes.pollUntil`), and what is tried again takes one pause less than attempts
(`Takes.retryIf`).
-/

namespace Groundwork

namespace Script

variable {Request : Type} {Answer : Request → Type} {ε ε' α β σ : Type}

/-! ### Time -/

namespace History

/-- How many nanoseconds were slept. -/
def slept : History Request Answer → Nat
  | [] => 0
  | .asked _ _ :: rest => slept rest
  | .slept time :: rest => time.ns + slept rest

@[simp] theorem slept_append (before later : History Request Answer) :
    slept (before ++ later) = slept before + slept later := by
  induction before with
  | nil => exact (Nat.zero_add _).symm
  | cons o rest ih =>
    cases o with
    | asked request answer => exact ih
    | slept time =>
      show time.ns + slept (rest ++ later) = time.ns + slept rest + slept later
      omega

end History

/-- The looks of a wait and the pauses between them take the time until the next look. -/
theorem slept_course (wait : Wait) (request : Request) (answers : Nat → Answer request) (n : Nat) :
    (wait.course request answers n).slept = wait.lookTime n := by
  induction n with
  | zero => exact wait.lookTime_zero.symm
  | succ n ih =>
    rw [Wait.course_succ, History.slept_append, ih, wait.lookTime_succ]
    rfl

/-- The looks up to one take the time after which it is made. -/
theorem slept_course_look (wait : Wait) (request : Request) (answers : Nat → Answer request)
    (n : Nat) :
    History.slept (wait.course request answers n ++ [.asked request (answers n)]) =
      wait.lookTime n := by
  rw [History.slept_append, slept_course]
  rfl

theorem slept_course_look_le {wait : Wait} {left : Duration} (hleft : wait.left = some left)
    (request : Request) (answers : Nat → Answer request) (n : Nat) :
    History.slept (wait.course request answers n ++ [.asked request (answers n)]) ≤ left.ns := by
  rw [slept_course_look, Wait.lookTime_of_left hleft]
  exact Nat.min_le_right _ _

/-! ### Finishing -/

/-- Played in any world, the script ends, and `post` holds of its outcome and of what has
happened. -/
structure Finishes (s : Script Request Answer ε α)
    (post : Except ε α → History Request Answer → Prop) : Prop where
  run : ∀ {σ : Type} (world : World Request Answer σ) (patience : Nat) (state : σ),
    ∃ outcome after history,
      s.run world.recording patience (state, []) = (some outcome, after, history) ∧
        post outcome history

namespace Finishes

theorem done {a : α} {post : Except ε α → History Request Answer → Prop} (h : post (.ok a) []) :
    Finishes (.done a) post :=
  ⟨fun _ _ state => ⟨.ok a, state, [], rfl, h⟩⟩

theorem fail {e : ε} {post : Except ε α → History Request Answer → Prop} (h : post (.error e) []) :
    Finishes (.fail e) post :=
  ⟨fun _ _ state => ⟨.error e, state, [], rfl, h⟩⟩

theorem ofExcept {x : Except ε α} {post : Except ε α → History Request Answer → Prop}
    (h : post x []) : Finishes (ofExcept x) post := by
  cases x with
  | ok a => exact done h
  | error e => exact fail h

theorem weaken {s : Script Request Answer ε α}
    {post post' : Except ε α → History Request Answer → Prop} (h : Finishes s post)
    (hpost : ∀ outcome history, post outcome history → post' outcome history) :
    Finishes s post' := by
  refine ⟨fun world patience state => ?_⟩
  obtain ⟨outcome, after, history, hrun, hstate⟩ := h.run world patience state
  exact ⟨outcome, after, history, hrun, hpost _ _ hstate⟩

/-- What follows something that has happened. -/
theorem shift {s : Script Request Answer ε α} (before : History Request Answer)
    {post : Except ε α → History Request Answer → Prop}
    (h : Finishes s fun outcome later => post outcome (before ++ later))
    (world : World Request Answer σ) (patience : Nat) (state : σ) :
    ∃ outcome after history,
      s.run world.recording patience (state, before) = (some outcome, after, history) ∧
        post outcome history := by
  obtain ⟨outcome, after, later, hrun, hpost⟩ := h.run world patience state
  have hshifted := run_recording_append before hrun
  rw [List.append_nil] at hshifted
  exact ⟨outcome, after, before ++ later, hshifted, hpost⟩

theorem ask {request : Request} {next : Answer request → Script Request Answer ε α}
    {post : Except ε α → History Request Answer → Prop}
    (h : ∀ answer, Finishes (next answer) fun outcome later =>
      post outcome (.asked request answer :: later)) : Finishes (.ask request next) post :=
  ⟨fun world patience state =>
    (h (world.answer request state).1).shift [.asked request _] world patience _⟩

theorem sleep {time : Duration} {next : Script Request Answer ε α}
    {post : Except ε α → History Request Answer → Prop}
    (h : Finishes next fun outcome later => post outcome (.slept time :: later)) :
    Finishes (.sleep time next) post :=
  ⟨fun world patience _ => h.shift [.slept time] world patience _⟩

theorem handle {s : Script Request Answer ε α} {k : Except ε α → Script Request Answer ε' β}
    {mid : Except ε α → History Request Answer → Prop}
    {post : Except ε' β → History Request Answer → Prop} (hs : Finishes s mid)
    (hk : ∀ outcome before, mid outcome before →
      Finishes (k outcome) fun outcome' later => post outcome' (before ++ later)) :
    Finishes (s.handle k) post := by
  refine ⟨fun world patience state => ?_⟩
  obtain ⟨outcome, between, before, hrun, hmid⟩ := hs.run world patience state
  rw [run_handle_some hrun]
  exact (hk outcome before hmid).shift before world patience between

theorem andThen {s : Script Request Answer ε α} {f : α → Script Request Answer ε β}
    {mid : Except ε α → History Request Answer → Prop}
    {post : Except ε β → History Request Answer → Prop} (hs : Finishes s mid)
    (hf : ∀ a before, mid (.ok a) before →
      Finishes (f a) fun outcome later => post outcome (before ++ later))
    (herror : ∀ e before, mid (.error e) before → post (.error e) before) :
    Finishes (s.andThen f) post := by
  apply hs.handle
  intro outcome before hmid
  cases outcome with
  | ok a => exact hf a before hmid
  | error e =>
    apply fail
    rw [List.append_nil]
    exact herror e before hmid

theorem mapError {s : Script Request Answer ε α}
    {post : Except ε α → History Request Answer → Prop} (hs : Finishes s post) (f : ε → ε') :
    Finishes (s.mapError f) fun outcome history =>
      ∃ ended, post ended history ∧ outcome = ended.mapError f := by
  apply hs.handle
  intro ended before hended
  cases ended with
  | ok a => exact done ⟨_, (List.append_nil before).symm ▸ hended, rfl⟩
  | error e => exact fail ⟨_, (List.append_nil before).symm ▸ hended, rfl⟩

/-- What a script asks for is all that it has asked for when it finishes. -/
theorem asking {P : Request → Prop} {s : Script Request Answer ε α}
    {post : Except ε α → History Request Answer → Prop} (h : Finishes s post)
    (hs : AsksOnly P s) :
    Finishes s fun outcome history => post outcome history ∧
      ∀ request answer, .asked request answer ∈ history → P request := by
  refine ⟨fun world patience state => ?_⟩
  obtain ⟨outcome, after, history, hrun, hpost⟩ := h.run world patience state
  exact ⟨outcome, after, history, hrun, hpost, fun _ _ hmem => hs.of_mem_history hrun hmem⟩

/-- A wait with a deadline ends with the first answer that is not pending, or with the look at its
deadline. -/
theorem pollUntil {wait : Wait} {left : Duration} {request : Request}
    {judge : Answer request → Except ε Bool} {overdue : ε}
    {post : Except ε Unit → History Request Answer → Prop} (hleft : wait.left = some left)
    (hinterval : 0 < wait.interval.ns)
    (hjudged : ∀ (answers : Nat → Answer request) (n : Nat),
      (∀ m < n, judge (answers m) = .ok false) → judge (answers n) ≠ .ok false →
        post ((judge (answers n)).map fun _ => ())
          (wait.course request answers n ++ [.asked request (answers n)]))
    (hoverdue : ∀ answers : Nat → Answer request,
      (∀ m ≤ left.ns ⌈/⌉ wait.interval.ns, judge (answers m) = .ok false) →
        post (.error overdue)
          (wait.course request answers (left.ns ⌈/⌉ wait.interval.ns) ++
            [.asked request (answers (left.ns ⌈/⌉ wait.interval.ns))])) :
    Finishes (pollUntil wait request judge overdue) post := by
  refine ⟨fun world patience state => ?_⟩
  rcases exists_first_or_none
    (fun n => judge (world.answerAt request wait state n) ≠ .ok false)
    (left.ns ⌈/⌉ wait.interval.ns) with ⟨n, hn, hdecided, hpending⟩ | hpending
  · have hbefore : ∀ m < n, judge (world.answerAt request wait state m) = .ok false :=
      fun m hm => not_not.mp (hpending m hm)
    have hlasts : wait.Lasts n := Wait.lasts_of_le hleft hn
    exact ⟨_, _, _, run_pollUntil_judged hbefore hdecided hlasts (hlasts.lt_looks hleft hinterval),
      hjudged _ n hbefore hdecided⟩
  · have hall : ∀ m ≤ left.ns ⌈/⌉ wait.interval.ns,
        judge (world.answerAt request wait state m) = .ok false :=
      fun m hm => not_not.mp (hpending m hm)
    exact ⟨_, _, _, run_pollUntil_overdue hleft hinterval hall, hoverdue _ hall⟩

end Finishes

/-! ### Taking time -/

/-- The script finishes, and sleeps for so many nanoseconds at most. -/
def Takes (s : Script Request Answer ε α) (n : Nat) : Prop :=
  Finishes s fun _ history => history.slept ≤ n

namespace Takes

variable {m n : Nat}

theorem done {a : α} : Takes (.done a : Script Request Answer ε α) 0 :=
  Finishes.done (Nat.le_refl 0)

theorem fail {e : ε} : Takes (.fail e : Script Request Answer ε α) 0 :=
  Finishes.fail (Nat.le_refl 0)

theorem ofExcept (x : Except ε α) : Takes (ofExcept x : Script Request Answer ε α) 0 :=
  Finishes.ofExcept (Nat.le_refl 0)

theorem mono {s : Script Request Answer ε α} (h : Takes s m) (hle : m ≤ n) : Takes s n :=
  Finishes.weaken h fun _ _ hslept => Nat.le_trans hslept hle

theorem ask {request : Request} {next : Answer request → Script Request Answer ε α}
    (h : ∀ answer, Takes (next answer) n) : Takes (.ask request next) n :=
  Finishes.ask h

theorem sleep {time : Duration} {next : Script Request Answer ε α} (h : Takes next n) :
    Takes (.sleep time next) (time.ns + n) :=
  Finishes.sleep (Finishes.weaken h fun _ _ hslept => Nat.add_le_add_left hslept time.ns)

theorem handle {s : Script Request Answer ε α} {k : Except ε α → Script Request Answer ε' β}
    (hs : Takes s m) (hk : ∀ outcome, Takes (k outcome) n) : Takes (s.handle k) (m + n) := by
  apply Finishes.handle hs
  intro outcome before hbefore
  apply Finishes.weaken (hk outcome)
  intro _ later hlater
  rw [History.slept_append]
  exact Nat.add_le_add hbefore hlater

/-- The times of both parts add up. -/
theorem andThen {s : Script Request Answer ε α} {f : α → Script Request Answer ε β}
    (hs : Takes s m) (hf : ∀ a, Takes (f a) n) : Takes (s.andThen f) (m + n) := by
  apply hs.handle
  intro outcome
  cases outcome with
  | ok a => exact hf a
  | error e => exact fail.mono (Nat.zero_le n)

theorem mapError {s : Script Request Answer ε α} {f : ε → ε'} (hs : Takes s n) :
    Takes (s.mapError f) n := by
  apply Takes.handle (n := 0) hs
  intro outcome
  cases outcome with
  | ok a => exact done
  | error e => exact fail

/-- A wait is over at its deadline. -/
theorem pollUntil {wait : Wait} {left : Duration} {request : Request}
    {judge : Answer request → Except ε Bool} {overdue : ε} (hleft : wait.left = some left)
    (hinterval : 0 < wait.interval.ns) :
    Takes (pollUntil wait request judge overdue) left.ns := by
  apply Finishes.pollUntil hleft hinterval
  · exact fun answers n _ _ => slept_course_look_le hleft request answers n
  · exact fun answers _ => slept_course_look_le hleft request answers _

/-- Attempts that do not sleep take the pauses between them. -/
theorem retryLoop {delay : Duration} {retryable : ε → Script Request Answer ε Bool}
    {attempt : Script Request Answer ε α} (hr : ∀ e, Takes (retryable e) 0) (ha : Takes attempt 0)
    (again : Nat) : Takes (retryLoop delay retryable attempt again) (again * delay.ns) := by
  induction again with
  | zero => exact ha.mono (Nat.zero_le _)
  | succ again ih =>
    have hagain : Takes (.sleep delay (Script.retryLoop delay retryable attempt again))
        ((again + 1) * delay.ns) := by
      rw [Nat.succ_mul, Nat.add_comm]
      exact ih.sleep
    -- of the time for one more attempt the attempt itself takes nothing
    rw [← Nat.zero_add ((again + 1) * delay.ns)]
    apply ha.handle
    intro outcome
    cases outcome with
    | ok a => exact done.mono (Nat.zero_le _)
    | error e =>
      rw [← Nat.zero_add ((again + 1) * delay.ns)]
      apply (hr e).andThen
      intro more
      cases more with
      | true => exact hagain
      | false => exact fail.mono (Nat.zero_le _)

theorem retryIf {policy : RetryPolicy} {retryable : ε → Script Request Answer ε Bool}
    {attempt : Script Request Answer ε α} (hr : ∀ e, Takes (retryable e) 0)
    (ha : Takes attempt 0) :
    Takes (retryIf policy retryable attempt)
      ((max policy.maxAttempts.toNat 1 - 1) * policy.delay.ns) :=
  retryLoop hr ha _

end Takes

end Script

end Groundwork
