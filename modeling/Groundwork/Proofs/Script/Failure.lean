import Groundwork.Proofs.Script.History

/-!
# How scripts fail

`FailsOnly reports Q s` says that the script `s` fails only with an error of `Q`, or with one that an
answer has reported to it.  Like `AsksOnly` it is a property of the script alone;
`FailsOnly.reported` finds the answer in the history of a run.

`Ends world patience pre s post` is the contract of a script whose errors count as much as its
results: played from a state with `pre`, it leaves `post` with its outcome, whichever that is.
-/

namespace Groundwork.Script

variable {Request : Type} {Answer : Request → Type} {ε ε' α β σ : Type}

/-! ### Where errors come from -/

/-- The script fails only with errors of `Q`, or with one that an answer has reported. -/
def FailsOnly (reports : (request : Request) → Answer request → ε → Prop) (Q : ε → Prop) :
    Script Request Answer ε α → Prop
  | .done _ => True
  | .fail e => Q e
  | .ask request next =>
    ∀ answer, FailsOnly reports (fun e => Q e ∨ reports request answer e) (next answer)
  | .sleep _ next => FailsOnly reports Q next
  | .poll _ request _ next expired =>
    (∀ answer, FailsOnly reports (fun e => Q e ∨ reports request answer e) (next answer)) ∧
      FailsOnly reports Q expired

/-- Something in the history has reported the error. -/
def History.Reported (reports : (request : Request) → Answer request → ε → Prop) (e : ε)
    (history : History Request Answer) : Prop :=
  ∃ request answer, .asked request answer ∈ history ∧ reports request answer e

namespace FailsOnly

variable {reports : (request : Request) → Answer request → ε → Prop} {Q Q' : ε → Prop}

theorem ofExcept {x : Except ε α} (h : ∀ e, x = .error e → Q e) :
    FailsOnly reports Q (ofExcept x : Script Request Answer ε α) := by
  cases x with
  | ok a => trivial
  | error e => exact h e rfl

theorem mono {s : Script Request Answer ε α} (hs : FailsOnly reports Q s)
    (h : ∀ e, Q e → Q' e) : FailsOnly reports Q' s := by
  induction s generalizing Q Q' with
  | done a => trivial
  | fail e => exact h e hs
  | ask request next ih => exact fun answer => ih answer (hs answer) fun e => Or.imp_left (h e)
  | sleep time next ih => exact ih hs h
  | poll wait request pending next expired ihn ihe =>
    exact ⟨fun answer => ihn answer (hs.1 answer) fun e => Or.imp_left (h e), ihe hs.2 h⟩

/-- What follows a failure may fail with the same error again. -/
theorem handle {s : Script Request Answer ε α} {k : Except ε α → Script Request Answer ε β}
    (hs : FailsOnly reports Q s) (hok : ∀ a, FailsOnly reports Q (k (.ok a)))
    (herror : ∀ e, FailsOnly reports (fun e' => Q e' ∨ e' = e) (k (.error e))) :
    FailsOnly reports Q (s.handle k) := by
  -- along the script more errors are allowed; `C` are those allowed where it fails
  suffices h : ∀ C : ε → Prop, (∀ e, Q e → C e) → FailsOnly reports C s →
      FailsOnly reports C (s.handle k) from h Q (fun _ hQ => hQ) hs
  clear hs
  intro C hC hs
  induction s generalizing C with
  | done a => exact (hok a).mono hC
  | fail e =>
    apply (herror e).mono
    rintro e' (hQ | rfl)
    · exact hC e' hQ
    · exact hs
  | ask request next ih => exact fun answer => ih answer _ (fun e hQ => Or.inl (hC e hQ)) (hs answer)
  | sleep time next ih => exact ih C hC hs
  | poll wait request pending next expired ihn ihe =>
    exact ⟨fun answer => ihn answer _ (fun e hQ => Or.inl (hC e hQ)) (hs.1 answer),
      ihe C hC hs.2⟩

theorem andThen {s : Script Request Answer ε α} {f : α → Script Request Answer ε β}
    (hs : FailsOnly reports Q s) (hf : ∀ a, FailsOnly reports Q (f a)) :
    FailsOnly reports Q (s.andThen f) :=
  hs.handle hf fun _ => Or.inr rfl

theorem pollUntil {wait : Wait} {request : Request} {judge : Answer request → Except ε Bool}
    {overdue : ε} (hjudge : ∀ answer e, judge answer = .error e → Q e ∨ reports request answer e)
    (hoverdue : Q overdue) : FailsOnly reports Q (pollUntil wait request judge overdue) := by
  refine ⟨fun answer => ?_, hoverdue⟩
  dsimp only
  rcases hanswer : judge answer with e | done
  · exact hjudge answer e hanswer
  · trivial

theorem retryLoop {delay : Duration} {retryable : ε → Script Request Answer ε Bool}
    {attempt : Script Request Answer ε α} (hr : ∀ e, FailsOnly reports Q (retryable e))
    (ha : FailsOnly reports Q attempt) (again : Nat) :
    FailsOnly reports Q (retryLoop delay retryable attempt again) := by
  induction again with
  | zero => exact ha
  | succ again ih =>
    apply ha.handle
    · intro a
      trivial
    · intro e
      apply ((hr e).mono fun _ => Or.inl).andThen
      intro more
      cases more with
      | true => exact ih.mono fun _ => Or.inl
      | false => exact Or.inr rfl

theorem retryIf {policy : RetryPolicy} {retryable : ε → Script Request Answer ε Bool}
    {attempt : Script Request Answer ε α} (hr : ∀ e, FailsOnly reports Q (retryable e))
    (ha : FailsOnly reports Q attempt) : FailsOnly reports Q (retryIf policy retryable attempt) :=
  retryLoop hr ha _

end FailsOnly

section Recording

variable {world : World Request Answer σ} {patience : Nat}
  {reports : (request : Request) → Answer request → ε → Prop} {Q : ε → Prop}

/-- The answer that a wait has seen is in the history. -/
theorem World.seen_mem_watch_recording {request : Request} {pending : Answer request → Bool}
    {looks : Nat} {wait : Wait} {state state' : σ × History Request Answer}
    {answer : Answer request}
    (h : world.recording.watch request pending looks wait state = (.seen answer, state')) :
    .asked request answer ∈ state'.2 := by
  induction looks generalizing wait state with
  | zero => cases h
  | succ looks ih =>
    simp only [World.watch] at h
    split at h
    · split at h
      · cases h
      · exact ih h
    · obtain ⟨hanswer, rfl⟩ := Prod.mk.inj h
      cases hanswer
      exact asked_mem_recording request state

/-- An error of a run that is not of `Q` was reported during the run. -/
theorem FailsOnly.reported {s : Script Request Answer ε α} (hs : FailsOnly reports Q s)
    {state state' : σ × History Request Answer} {e : ε}
    (hrun : s.run world.recording patience state = (some (.error e), state')) :
    Q e ∨ History.Reported reports e state'.2 := by
  induction s generalizing Q state with
  | done a => cases hrun
  | fail e' =>
    cases hrun
    exact Or.inl hs
  | ask request next ih =>
    have hasked : .asked request (world.answer request state.1).1 ∈
        ((ask request next).run world.recording patience state).2.2 :=
      mem_run_recording (next _) (asked_mem_recording request state)
    rw [hrun] at hasked
    rcases ih _ (hs _) hrun with (hQ | hreports) | hreported
    · exact Or.inl hQ
    · exact Or.inr ⟨request, _, hasked, hreports⟩
    · exact Or.inr hreported
  | sleep time next ih => exact ih hs hrun
  | poll wait request pending next expired ihn ihe =>
    simp only [run] at hrun
    split at hrun
    · rename_i answer mid hlook
      have hasked : .asked request answer ∈
          ((next answer).run world.recording patience mid).2.2 :=
        mem_run_recording (next answer) (World.seen_mem_watch_recording hlook)
      rw [hrun] at hasked
      rcases ihn answer (hs.1 answer) hrun with (hQ | hreports) | hreported
      · exact Or.inl hQ
      · exact Or.inr ⟨request, answer, hasked, hreports⟩
      · exact Or.inr hreported
    · exact ihe hs.2 hrun
    · cases hrun

end Recording

/-! ### Contracts for outcomes -/

/-- Played from a state with `pre`, the script leaves `post` with its outcome. -/
def Ends (world : World Request Answer σ) (patience : Nat) (pre : σ → Prop)
    (s : Script Request Answer ε α) (post : Except ε α → σ → Prop) : Prop :=
  ∀ state, pre state → ∀ outcome state', s.run world patience state = (some outcome, state') →
    post outcome state'

namespace Ends

variable {world : World Request Answer σ} {patience : Nat} {pre : σ → Prop}

theorem ofExcept {x : Except ε α} {post : Except ε α → σ → Prop}
    (h : ∀ state, pre state → post x state) :
    Ends world patience pre (ofExcept x : Script Request Answer ε α) post := by
  intro state hpre outcome state' hrun
  rw [run_ofExcept] at hrun
  cases hrun
  exact h state hpre

theorem weaken {pre' : σ → Prop} {s : Script Request Answer ε α}
    {post post' : Except ε α → σ → Prop} (h : Ends world patience pre s post)
    (hpre : ∀ state, pre' state → pre state)
    (hpost : ∀ outcome state, post outcome state → post' outcome state) :
    Ends world patience pre' s post' :=
  fun state hstate outcome state' hrun =>
    hpost outcome state' (h state (hpre state hstate) outcome state' hrun)

/-- Two contracts of one script hold together. -/
theorem and {pre' : σ → Prop} {s : Script Request Answer ε α} {post post' : Except ε α → σ → Prop}
    (h : Ends world patience pre s post) (h' : Ends world patience pre' s post') :
    Ends world patience (fun state => pre state ∧ pre' state) s fun outcome state =>
      post outcome state ∧ post' outcome state :=
  fun state hstate outcome state' hrun =>
    ⟨h state hstate.1 outcome state' hrun, h' state hstate.2 outcome state' hrun⟩

theorem ask {request : Request} {next : Answer request → Script Request Answer ε α}
    {post : Except ε α → σ → Prop} (mid : Answer request → σ → Prop)
    (hask : ∀ state, pre state →
      mid (world.answer request state).1 (world.answer request state).2)
    (hnext : ∀ answer, Ends world patience (mid answer) (next answer) post) :
    Ends world patience pre (.ask request next) post :=
  fun state hpre outcome state' hrun => hnext _ _ (hask state hpre) outcome state' hrun

theorem handle {s : Script Request Answer ε α} {k : Except ε α → Script Request Answer ε' β}
    {mid : Except ε α → σ → Prop} {post : Except ε' β → σ → Prop}
    (hs : Ends world patience pre s mid)
    (hk : ∀ outcome, Ends world patience (mid outcome) (k outcome) post) :
    Ends world patience pre (s.handle k) post := by
  intro state hpre outcome state' hrun
  obtain ⟨first, between, hfirst, hrest⟩ := exists_run_of_handle hrun
  exact hk first between (hs state hpre first between hfirst) outcome state' hrest

/-- A sequence fails with an error of its first part, or ends like the second. -/
theorem andThen {s : Script Request Answer ε α} {f : α → Script Request Answer ε β}
    {mid : Except ε α → σ → Prop} {post : Except ε β → σ → Prop}
    (hs : Ends world patience pre s mid)
    (hf : ∀ a, Ends world patience (mid (.ok a)) (f a) post)
    (herror : ∀ e state, mid (.error e) state → post (.error e) state) :
    Ends world patience pre (s.andThen f) post := by
  refine handle hs fun outcome => ?_
  cases outcome with
  | ok a => exact hf a
  | error e => exact ofExcept (herror e)

end Ends

/-- A script leaves what each of its requests and every pause keeps. -/
theorem AsksOnly.ends {world : World Request Answer σ} {patience : Nat} {pre : σ → Prop}
    {P : Request → Prop} {s : Script Request Answer ε α} (hs : AsksOnly P s)
    (hanswer : ∀ request, P request → ∀ state, pre state → pre (world.answer request state).2)
    (hsleep : ∀ time state, pre state → pre (world.sleep time state)) :
    Ends world patience pre s fun _ state => pre state := by
  intro state hpre outcome state' hrun
  have hkept : pre (s.run world patience state).2 := hs.run_keeps hanswer hsleep state hpre
  rwa [hrun] at hkept

/-- The errors of a script are of `Q`, or they were reported to it. -/
theorem FailsOnly.ends {world : World Request Answer σ} {patience : Nat}
    {reports : (request : Request) → Answer request → ε → Prop} {Q : ε → Prop}
    {s : Script Request Answer ε α} (hs : FailsOnly reports Q s) :
    Ends world.recording patience (fun _ => True) s fun outcome state =>
      ∀ e, outcome = .error e → Q e ∨ History.Reported reports e state.2 := by
  rintro state - outcome state' hrun e rfl
  exact hs.reported hrun

end Groundwork.Script
