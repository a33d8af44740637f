import Groundwork.Proofs.Script.History

/-!
# What a result is evidence of

What a run adds to a history does not depend on what had happened before it
(`run_recording_append`), so the history of a sequence is that of its first part followed by that of
the second.

`Attests s post` says that a result of the script `s` is evidence of `post`: in whatever world it is
played, when it ends with a result, `post` holds of the result and of what has happened since its
beginning.  Nothing is said of runs that fail.  `Attests.andThen` composes; `Attests.pollUntil` and
`Attests.retryIf` are what the two loops are evidence of: the last answer was accepted, the last
attempt succeeded.
-/

namespace Groundwork.Script

variable {Request : Type} {Answer : Request → Type} {ε ε' α β σ : Type}

/-! ### Histories of parts -/

section Append

variable {world : World Request Answer σ} {patience : Nat} {state after : σ}
  {history later : History Request Answer}

theorem World.watch_recording_append (before : History Request Answer) {request : Request}
    {pending : Answer request → Bool} {looks : Nat} {wait : Wait} {look : Look (Answer request)}
    (h : world.recording.watch request pending looks wait (state, history) =
      (look, after, later)) :
    world.recording.watch request pending looks wait (state, before ++ history) =
      (look, after, before ++ later) := by
  induction looks generalizing wait state history with
  | zero =>
    cases h
    rfl
  | succ looks ih =>
    simp only [World.watch, World.recording_answer, List.append_assoc] at h ⊢
    by_cases hpending : pending (world.answer request state).1 = true
    · simp only [hpending, ↓reduceIte] at h ⊢
      rcases hpause : wait.pause? with _ | ⟨time, rest⟩ <;> rw [hpause] at h
      · cases h
        rfl
      · simp only [World.recording_sleep, List.append_assoc] at h ⊢
        exact ih h
    · simp only [hpending, Bool.false_eq_true, ↓reduceIte] at h ⊢
      cases h
      rfl

/-- What a run adds to the history does not depend on what has happened before. -/
theorem run_recording_append (before : History Request Answer) {s : Script Request Answer ε α}
    {outcome : Option (Except ε α)}
    (h : s.run world.recording patience (state, history) = (outcome, after, later)) :
    s.run world.recording patience (state, before ++ history) =
      (outcome, after, before ++ later) := by
  induction s generalizing state history with
  | done a =>
    cases h
    rfl
  | fail e =>
    cases h
    rfl
  | ask request next ih =>
    simp only [run, World.recording_answer, List.append_assoc] at h ⊢
    exact ih _ h
  | sleep time next ih =>
    simp only [run, World.recording_sleep, List.append_assoc] at h ⊢
    exact ih h
  | poll wait request pending next expired ihn ihe =>
    simp only [run] at h ⊢
    rcases hlook : world.recording.watch request pending (wait.looks patience) wait
      (state, history) with ⟨answer | _ | _, mid, between⟩ <;>
      rw [hlook] at h <;> rw [World.watch_recording_append before hlook]
    · exact ihn answer h
    · exact ihe h
    · cases h
      rfl

/-- A run that starts with a history only adds to it. -/
theorem exists_run_recording {before : History Request Answer} {s : Script Request Answer ε α}
    {outcome : Option (Except ε α)}
    (h : s.run world.recording patience (state, before) = (outcome, after, history)) :
    ∃ later, history = before ++ later ∧
      s.run world.recording patience (state, []) = (outcome, after, later) := by
  rcases hrun : s.run world.recording patience (state, []) with ⟨outcome', after', later⟩
  have hshifted := run_recording_append before hrun
  rw [List.append_nil, h] at hshifted
  cases hshifted
  exact ⟨later, rfl, rfl⟩

/-- A script that asks only `P` has asked nothing else when it stops, however it stops. -/
theorem AsksOnly.of_mem_history {P : Request → Prop} {s : Script Request Answer ε α}
    (hs : AsksOnly P s) {outcome : Option (Except ε α)}
    (hrun : s.run world.recording patience (state, []) = (outcome, after, history))
    {request : Request} {answer : Answer request} (h : .asked request answer ∈ history) :
    P request := by
  have hkept : ∀ request answer,
      .asked request answer ∈ (s.run world.recording patience (state, [])).2.2 → P request := by
    apply hs.run_keeps (J := fun state : σ × History Request Answer =>
      ∀ request answer, .asked request answer ∈ state.2 → P request)
    · intro request hP state hstate other answer hmem
      rcases List.mem_append.mp hmem with hmem | hmem
      · exact hstate other answer hmem
      · cases List.mem_singleton.mp hmem
        exact hP
    · intro time state hstate other answer hmem
      rcases List.mem_append.mp hmem with hmem | hmem
      · exact hstate other answer hmem
      · cases List.mem_singleton.mp hmem
    · exact fun _ _ hmem => nomatch hmem
  rw [hrun] at hkept
  exact hkept request answer h

end Append

/-! ### Evidence -/

/-- When the script ends with a result, `post` holds of it and of what has happened. -/
structure Attests (s : Script Request Answer ε α) (post : α → History Request Answer → Prop) :
    Prop where
  of_run : ∀ {σ : Type} {world : World Request Answer σ} {patience : Nat} {state after : σ} {a : α}
    {history : History Request Answer},
    s.run world.recording patience (state, []) = (some (.ok a), after, history) → post a history

namespace Attests

theorem done {a : α} {post : α → History Request Answer → Prop} (h : post a []) :
    Attests (.done a : Script Request Answer ε α) post := by
  refine ⟨fun hrun => ?_⟩
  cases hrun
  exact h

theorem fail {e : ε} {post : α → History Request Answer → Prop} :
    Attests (.fail e : Script Request Answer ε α) post := by
  refine ⟨fun hrun => ?_⟩
  cases hrun

theorem ofExcept {x : Except ε α} {post : α → History Request Answer → Prop}
    (h : ∀ a, x = .ok a → post a []) :
    Attests (ofExcept x : Script Request Answer ε α) post := by
  cases x with
  | ok a => exact done (h a rfl)
  | error e => exact fail

theorem weaken {s : Script Request Answer ε α} {post post' : α → History Request Answer → Prop}
    (h : Attests s post) (hpost : ∀ a history, post a history → post' a history) :
    Attests s post' :=
  ⟨fun hrun => hpost _ _ (h.of_run hrun)⟩

theorem ask {request : Request} {next : Answer request → Script Request Answer ε α}
    {post : α → History Request Answer → Prop}
    (h : ∀ answer, Attests (next answer) fun a later => post a (.asked request answer :: later)) :
    Attests (.ask request next) post := by
  refine ⟨fun hrun => ?_⟩
  obtain ⟨later, rfl, hnext⟩ := exists_run_recording (s := next _) hrun
  exact (h _).of_run hnext

/-- Evidence of both parts, if there is none to be had from a failure of the first. -/
theorem handle {s : Script Request Answer ε α} {k : Except ε α → Script Request Answer ε' β}
    {mid : α → History Request Answer → Prop} {post : β → History Request Answer → Prop}
    (hs : Attests s mid)
    (hok : ∀ a before, mid a before → Attests (k (.ok a)) fun b later => post b (before ++ later))
    (herror : ∀ e, Attests (k (.error e)) fun _ _ => False) : Attests (s.handle k) post := by
  refine ⟨fun {σ world patience state after b history} hrun => ?_⟩
  obtain ⟨outcome, ⟨between, before⟩, hfirst, hsecond⟩ := exists_run_of_handle hrun
  obtain ⟨later, rfl, hrest⟩ := exists_run_recording hsecond
  cases outcome with
  | ok a => exact (hok a before (hs.of_run hfirst)).of_run hrest
  | error e => exact ((herror e).of_run hrest).elim

theorem andThen {s : Script Request Answer ε α} {f : α → Script Request Answer ε β}
    {mid : α → History Request Answer → Prop} {post : β → History Request Answer → Prop}
    (hs : Attests s mid)
    (hf : ∀ a before, mid a before → Attests (f a) fun b later => post b (before ++ later)) :
    Attests (s.andThen f) post :=
  hs.handle hf fun _ => fail

/-- What the second part is evidence of, whatever has happened in the first. -/
theorem later {s : Script Request Answer ε α} {f : α → Script Request Answer ε β}
    {post : β → History Request Answer → Prop}
    (hpost : ∀ b before later, post b later → post b (before ++ later))
    (hf : ∀ a, Attests (f a) post) : Attests (s.andThen f) post := by
  have hanything : Attests s fun _ _ => True := ⟨fun _ => trivial⟩
  apply hanything.andThen
  intro a before _
  exact (hf a).weaken fun b later => hpost b before later

end Attests

/-! ### Evidence of the loops -/

/-- What a wait has seen is the last that has happened, and it is not pending. -/
theorem World.watch_seen {world : World Request Answer σ} {request : Request}
    {pending : Answer request → Bool} {looks : Nat} {wait : Wait}
    {state state' : σ × History Request Answer} {answer : Answer request}
    (h : world.recording.watch request pending looks wait state = (.seen answer, state')) :
    pending answer = false ∧ ∃ before, state'.2 = before ++ [.asked request answer] := by
  induction looks generalizing wait state with
  | zero => cases h
  | succ looks ih =>
    simp only [World.watch, World.recording_answer] at h
    by_cases hpending : pending (world.answer request state.1).1 = true
    · simp only [hpending, ↓reduceIte] at h
      rcases hpause : wait.pause? with _ | ⟨time, rest⟩ <;> rw [hpause] at h
      · cases h
      · exact ih h
    · simp only [hpending, Bool.false_eq_true, ↓reduceIte] at h
      cases h
      exact ⟨Bool.eq_false_iff.mpr hpending, state.2, rfl⟩

namespace Attests

/-- A wait that ends well has got an answer that its judge accepts. -/
theorem pollUntil {wait : Wait} {request : Request} {judge : Answer request → Except ε Bool}
    {overdue : ε} :
    Attests (pollUntil wait request judge overdue) fun _ history =>
      ∃ before answer, judge answer = .ok true ∧ history = before ++ [.asked request answer] := by
  refine ⟨fun hrun => ?_⟩
  simp only [Script.pollUntil, run] at hrun
  split at hrun
  · rename_i answer mid hlook
    obtain ⟨hpending, before, hmid⟩ := World.watch_seen hlook
    -- the answer is not pending, so the judge has said yes or failed
    rcases hjudge : judge answer with e | b
    · rw [hjudge] at hrun
      cases hrun
    · rw [hjudge] at hrun hpending
      cases hrun
      cases b with
      | true => exact ⟨before, answer, hjudge, hmid⟩
      | false => cases hpending
  · cases hrun
  · cases hrun

/-- Where something is tried again and again, the last attempt is evidence. -/
theorem retryLoop {delay : Duration} {retryable : ε → Script Request Answer ε Bool}
    {attempt : Script Request Answer ε α} {post : α → History Request Answer → Prop}
    (h : Attests attempt post) (again : Nat) :
    Attests (retryLoop delay retryable attempt again) fun a history =>
      ∃ before last, history = before ++ last ∧ post a last := by
  induction again with
  | zero => exact h.weaken fun a history hpost => ⟨[], history, rfl, hpost⟩
  | succ again ih =>
    refine ⟨fun {σ world patience state after a history} hrun => ?_⟩
    obtain ⟨outcome, ⟨between, failed⟩, hfirst, hsecond⟩ := exists_run_of_handle hrun
    cases outcome with
    | ok b =>
      cases hsecond
      exact ⟨[], _, rfl, h.of_run hfirst⟩
    | error e =>
      obtain ⟨more, ⟨between', asked⟩, hasked, hagain⟩ := exists_run_of_andThen hsecond
      cases more with
      | false => cases hagain
      | true =>
        -- the attempts after the pause come last
        obtain ⟨later, rfl, hlater⟩ :=
          exists_run_recording (s := Script.retryLoop delay retryable attempt again) hagain
        obtain ⟨before, last, rfl, hpost⟩ := ih.of_run hlater
        exact ⟨asked ++ [.slept delay] ++ before, last, by simp only [List.append_assoc], hpost⟩

theorem retryIf {policy : RetryPolicy} {retryable : ε → Script Request Answer ε Bool}
    {attempt : Script Request Answer ε α} {post : α → History Request Answer → Prop}
    (h : Attests attempt post) :
    Attests (retryIf policy retryable attempt) fun a history =>
      ∃ before last, history = before ++ last ∧ post a last :=
  retryLoop h _

end Attests

end Groundwork.Script
