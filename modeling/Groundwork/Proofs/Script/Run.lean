import Groundwork.Script.Patterns

/-!
# Playing composed scripts

`run_handle` says how a composed script is played: the first part is played to its end, and what
follows starts from the state that it leaves.  `run_andThen_ok` and `run_andThen_error` are the two
ways a sequence goes on.

`AsksOnly P s` says that the script `s` asks nothing outside `P`, whatever it is answered.  It is a
property of the script alone; `AsksOnly.handle` and `AsksOnly.andThen` compose it.

`Returns world patience s state a post` says that a run ends with the result `a`, in a state of
which `post` holds; `Returns.andThen` composes such runs.

`Upholds world patience I pre s post` is the contract of a script in a world: played from a state
with `I` and `pre`, it keeps `I` however far it is played, and leaves `post` when it ends with a
result.  `Upholds.andThen` composes contracts, and `AsksOnly.upholds` gives a contract to every
script whose requests are harmless.
-/

namespace Groundwork.Script

variable {Request : Type} {Answer : Request → Type} {ε ε' α β σ : Type}

@[simp] theorem pure_eq_done (a : α) : (pure a : Script Request Answer ε α) = .done a := rfl

@[simp] theorem bind_eq_andThen (s : Script Request Answer ε α)
    (f : α → Script Request Answer ε β) : s >>= f = s.andThen f := rfl

@[simp] theorem throw_eq_fail (e : ε) : (throw e : Script Request Answer ε α) = .fail e := rfl

/-- Ending after a script changes nothing. -/
theorem andThen_done (s : Script Request Answer ε α) : s.andThen .done = s := by
  induction s with
  | done a => rfl
  | fail e => rfl
  | ask request next ih => exact congrArg (Script.ask request) (funext ih)
  | sleep time next ih => exact congrArg (Script.sleep time) ih
  | poll wait request pending next expired ihn ihe =>
    exact congr (congrArg (Script.poll wait request pending) (funext ihn)) ihe

/-! ### Runs -/

section Runs

variable {world : World Request Answer σ} {patience : Nat}

@[simp] theorem run_done (a : α) (state : σ) :
    (.done a : Script Request Answer ε α).run world patience state = (some (.ok a), state) := rfl

@[simp] theorem run_fail (e : ε) (state : σ) :
    (.fail e : Script Request Answer ε α).run world patience state = (some (.error e), state) := rfl

@[simp] theorem run_ofExcept (x : Except ε α) (state : σ) :
    (ofExcept x : Script Request Answer ε α).run world patience state = (some x, state) := by
  cases x <;> rfl

/-- What follows a script starts from the state that the script leaves, if the script ends. -/
theorem run_handle (k : Except ε α → Script Request Answer ε' β) (s : Script Request Answer ε α)
    (state : σ) :
    (s.handle k).run world patience state =
      match s.run world patience state with
      | (some outcome, state') => (k outcome).run world patience state'
      | (none, state') => (none, state') := by
  induction s generalizing state with
  | done a => rfl
  | fail e => rfl
  | ask request next ih => exact ih _ _
  | sleep time next ih => exact ih _
  | poll wait request pending next expired ihn ihe =>
    simp only [handle, run]
    split
    · exact ihn _ _
    · exact ihe _
    · rfl

theorem run_handle_some {k : Except ε α → Script Request Answer ε' β}
    {s : Script Request Answer ε α} {state state' : σ} {outcome : Except ε α}
    (h : s.run world patience state = (some outcome, state')) :
    (s.handle k).run world patience state = (k outcome).run world patience state' := by
  rw [run_handle, h]

theorem run_handle_none {k : Except ε α → Script Request Answer ε' β}
    {s : Script Request Answer ε α} {state state' : σ}
    (h : s.run world patience state = (none, state')) :
    (s.handle k).run world patience state = (none, state') := by
  rw [run_handle, h]

theorem run_andThen_ok {f : α → Script Request Answer ε β} {s : Script Request Answer ε α}
    {state state' : σ} {a : α} (h : s.run world patience state = (some (.ok a), state')) :
    (s.andThen f).run world patience state = (f a).run world patience state' := by
  rw [andThen, run_handle_some h]

theorem run_andThen_error {f : α → Script Request Answer ε β} {s : Script Request Answer ε α}
    {state state' : σ} {e : ε} (h : s.run world patience state = (some (.error e), state')) :
    (s.andThen f).run world patience state = (some (.error e), state') := by
  rw [andThen, run_handle_some h]
  rfl

/-- A composed script ends only if its first part does. -/
theorem exists_run_of_handle {k : Except ε α → Script Request Answer ε' β}
    {s : Script Request Answer ε α} {state after : σ} {outcome : Except ε' β}
    (h : (s.handle k).run world patience state = (some outcome, after)) :
    ∃ first mid, s.run world patience state = (some first, mid) ∧
      (k first).run world patience mid = (some outcome, after) := by
  rcases hfirst : s.run world patience state with ⟨_ | first, mid⟩
  · rw [run_handle_none hfirst] at h
    cases h
  · rw [run_handle_some hfirst] at h
    exact ⟨first, mid, rfl, h⟩

/-- A sequence ends with a result only if both parts do. -/
theorem exists_run_of_andThen {f : α → Script Request Answer ε β} {s : Script Request Answer ε α}
    {state after : σ} {b : β} (h : (s.andThen f).run world patience state = (some (.ok b), after)) :
    ∃ a mid, s.run world patience state = (some (.ok a), mid) ∧
      (f a).run world patience mid = (some (.ok b), after) := by
  obtain ⟨first, mid, hfirst, hrest⟩ := exists_run_of_handle h
  cases first with
  | ok a => exact ⟨a, mid, hfirst, hrest⟩
  | error e => cases hrest

theorem run_attempt {s : Script Request Answer ε α} {state state' : σ} {outcome : Except ε α}
    (h : s.run world patience state = (some outcome, state')) :
    s.attempt.run world patience state = (some (.ok outcome), state') := by
  rw [attempt, run_handle_some h]
  rfl

/-- A changed error is all that changes. -/
theorem run_mapError (f : ε → ε') {s : Script Request Answer ε α} {state state' : σ}
    {outcome : Option (Except ε α)} (h : s.run world patience state = (outcome, state')) :
    (s.mapError f).run world patience state = (outcome.map (Except.mapError f), state') := by
  rw [mapError, run_handle, h]
  rcases outcome with _ | ⟨e | a⟩ <;> rfl

end Runs

/-! ### Results -/

/-- Played from the state, the script ends with the result `a` and leaves `post`. -/
def Returns (world : World Request Answer σ) (patience : Nat) (s : Script Request Answer ε α)
    (state : σ) (a : α) (post : σ → Prop) : Prop :=
  ∃ state', s.run world patience state = (some (.ok a), state') ∧ post state'

namespace Returns

variable {world : World Request Answer σ} {patience : Nat} {state : σ}

theorem done {a : α} {post : σ → Prop} (h : post state) :
    Returns world patience (.done a : Script Request Answer ε α) state a post :=
  ⟨state, rfl, h⟩

theorem ofExcept {x : Except ε α} {a : α} {post : σ → Prop} (hx : x = .ok a) (h : post state) :
    Returns world patience (ofExcept x : Script Request Answer ε α) state a post := by
  subst hx
  exact done h

theorem ask {request : Request} {next : Answer request → Script Request Answer ε α} {a : α}
    {post : σ → Prop}
    (h : Returns world patience (next (world.answer request state).1)
      (world.answer request state).2 a post) :
    Returns world patience (.ask request next) state a post := h

theorem weaken {s : Script Request Answer ε α} {a : α} {post post' : σ → Prop}
    (h : Returns world patience s state a post) (hpost : ∀ state', post state' → post' state') :
    Returns world patience s state a post' := by
  obtain ⟨state', hrun, hstate'⟩ := h
  exact ⟨state', hrun, hpost state' hstate'⟩

theorem andThen {s : Script Request Answer ε α} {f : α → Script Request Answer ε β} {a : α} {b : β}
    {mid post : σ → Prop} (hs : Returns world patience s state a mid)
    (hf : ∀ state', mid state' → Returns world patience (f a) state' b post) :
    Returns world patience (s.andThen f) state b post := by
  obtain ⟨state', hrun, hmid⟩ := hs
  obtain ⟨state'', hrun', hpost⟩ := hf state' hmid
  exact ⟨state'', by rw [run_andThen_ok hrun, hrun'], hpost⟩

theorem attempt {s : Script Request Answer ε α} {a : α} {post : σ → Prop}
    (h : Returns world patience s state a post) :
    Returns world patience (s.attempt : Script Request Answer ε (Except ε α)) state (.ok a)
      post := by
  obtain ⟨state', hrun, hpost⟩ := h
  exact ⟨state', run_attempt hrun, hpost⟩

end Returns

/-! ### What a script asks -/

/-- The script asks only requests of which `P` holds. -/
def AsksOnly (P : Request → Prop) : Script Request Answer ε α → Prop
  | .done _ => True
  | .fail _ => True
  | .ask request next => P request ∧ ∀ answer, AsksOnly P (next answer)
  | .sleep _ next => AsksOnly P next
  | .poll _ request _ next expired =>
    P request ∧ (∀ answer, AsksOnly P (next answer)) ∧ AsksOnly P expired

namespace AsksOnly

variable {P Q : Request → Prop}

theorem ofExcept (x : Except ε α) :
    AsksOnly P (ofExcept x : Script Request Answer ε α) := by
  cases x <;> trivial

theorem mono (hPQ : ∀ request, P request → Q request) {s : Script Request Answer ε α}
    (h : AsksOnly P s) : AsksOnly Q s := by
  induction s with
  | done a => trivial
  | fail e => trivial
  | ask request next ih => exact ⟨hPQ _ h.1, fun answer => ih answer (h.2 answer)⟩
  | sleep time next ih => exact ih h
  | poll wait request pending next expired ihn ihe =>
    exact ⟨hPQ _ h.1, fun answer => ihn answer (h.2.1 answer), ihe h.2.2⟩

theorem handle {s : Script Request Answer ε α} {k : Except ε α → Script Request Answer ε' β}
    (hs : AsksOnly P s) (hk : ∀ outcome, AsksOnly P (k outcome)) : AsksOnly P (s.handle k) := by
  induction s with
  | done a => exact hk _
  | fail e => exact hk _
  | ask request next ih => exact ⟨hs.1, fun answer => ih answer (hs.2 answer)⟩
  | sleep time next ih => exact ih hs
  | poll wait request pending next expired ihn ihe =>
    exact ⟨hs.1, fun answer => ihn answer (hs.2.1 answer), ihe hs.2.2⟩

theorem andThen {s : Script Request Answer ε α} {f : α → Script Request Answer ε β}
    (hs : AsksOnly P s) (hf : ∀ a, AsksOnly P (f a)) : AsksOnly P (s.andThen f) := by
  apply hs.handle
  intro outcome
  cases outcome with
  | ok a => exact hf a
  | error e => trivial

theorem mapError {s : Script Request Answer ε α} {f : ε → ε'} (hs : AsksOnly P s) :
    AsksOnly P (s.mapError f) := by
  apply hs.handle
  intro outcome
  cases outcome <;> trivial

theorem pollUntil {wait : Wait} {request : Request} {judge : Answer request → Except ε Bool}
    {overdue : ε} (h : P request) : AsksOnly P (pollUntil wait request judge overdue) := by
  refine ⟨h, fun answer => ?_, trivial⟩
  dsimp only
  split <;> trivial

theorem retryLoop {delay : Duration} {retryable : ε → Script Request Answer ε Bool}
    {attempt : Script Request Answer ε α} (hr : ∀ e, AsksOnly P (retryable e))
    (ha : AsksOnly P attempt) (again : Nat) :
    AsksOnly P (retryLoop delay retryable attempt again) := by
  induction again with
  | zero => exact ha
  | succ again ih =>
    apply ha.handle
    intro outcome
    cases outcome with
    | ok a => trivial
    | error e =>
      apply (hr e).andThen
      intro more
      cases more with
      | true => exact ih
      | false => trivial

theorem retryIf {policy : RetryPolicy} {retryable : ε → Script Request Answer ε Bool}
    {attempt : Script Request Answer ε α} (hr : ∀ e, AsksOnly P (retryable e))
    (ha : AsksOnly P attempt) : AsksOnly P (retryIf policy retryable attempt) :=
  retryLoop hr ha _

end AsksOnly

/-! ### Contracts -/

/-- Played from a state with `I` and `pre`, the script keeps `I`, also when it is broken off, and
leaves `post` when it ends with a result. -/
def Upholds (world : World Request Answer σ) (patience : Nat) (I pre : σ → Prop)
    (s : Script Request Answer ε α) (post : α → σ → Prop) : Prop :=
  ∀ state, I state → pre state →
    I (s.run world patience state).2 ∧
      ∀ a, (s.run world patience state).1 = some (.ok a) → post a (s.run world patience state).2

namespace Upholds

variable {world : World Request Answer σ} {patience : Nat} {I pre : σ → Prop}

theorem done {a : α} {post : α → σ → Prop} (h : ∀ state, I state → pre state → post a state) :
    Upholds world patience I pre (.done a : Script Request Answer ε α) post := by
  intro state hI hpre
  refine ⟨hI, fun b hb => ?_⟩
  obtain rfl : a = b := by simpa using hb
  exact h state hI hpre

theorem fail {e : ε} {post : α → σ → Prop} :
    Upholds world patience I pre (.fail e : Script Request Answer ε α) post :=
  fun _ hI _ => ⟨hI, fun _ hb => by simp at hb⟩

theorem ofExcept {x : Except ε α} {post : α → σ → Prop}
    (h : ∀ a, x = .ok a → ∀ state, I state → pre state → post a state) :
    Upholds world patience I pre (ofExcept x : Script Request Answer ε α) post := by
  cases x with
  | ok a => exact done (h a rfl)
  | error e => exact fail

theorem weaken {pre' : σ → Prop} {s : Script Request Answer ε α} {post post' : α → σ → Prop}
    (h : Upholds world patience I pre s post) (hpre : ∀ state, I state → pre' state → pre state)
    (hpost : ∀ a state, I state → post a state → post' a state) :
    Upholds world patience I pre' s post' := by
  intro state hI hstate
  obtain ⟨hI', hpost'⟩ := h state hI (hpre state hI hstate)
  exact ⟨hI', fun a ha => hpost a _ hI' (hpost' a ha)⟩

theorem ask {request : Request} {next : Answer request → Script Request Answer ε α}
    {post : α → σ → Prop} (mid : Answer request → σ → Prop)
    (hask : ∀ state, I state → pre state → I (world.answer request state).2 ∧
      mid (world.answer request state).1 (world.answer request state).2)
    (hnext : ∀ answer, Upholds world patience I (mid answer) (next answer) post) :
    Upholds world patience I pre (.ask request next) post := by
  intro state hI hpre
  obtain ⟨hI', hmid⟩ := hask state hI hpre
  exact hnext _ _ hI' hmid

theorem handle {s : Script Request Answer ε α} {k : Except ε α → Script Request Answer ε' β}
    {mid : α → σ → Prop} {post : β → σ → Prop} (hs : Upholds world patience I pre s mid)
    (hok : ∀ a, Upholds world patience I (mid a) (k (.ok a)) post)
    (herror : ∀ e, Upholds world patience I (fun _ => True) (k (.error e)) post) :
    Upholds world patience I pre (s.handle k) post := by
  intro state hI hpre
  obtain ⟨hI', hmid⟩ := hs state hI hpre
  rw [run_handle]
  -- the first part is broken off, fails or ends with a result
  rcases hrun : s.run world patience state with ⟨_ | ⟨e | a⟩, state'⟩ <;> rw [hrun] at hI' hmid
  · exact ⟨hI', fun b hb => by simp at hb⟩
  · exact herror e state' hI' trivial
  · exact hok a state' hI' (hmid a rfl)

theorem andThen {s : Script Request Answer ε α} {f : α → Script Request Answer ε β}
    {mid : α → σ → Prop} {post : β → σ → Prop} (hs : Upholds world patience I pre s mid)
    (hf : ∀ a, Upholds world patience I (mid a) (f a) post) :
    Upholds world patience I pre (s.andThen f) post :=
  hs.handle hf fun _ => fail

end Upholds

/-- Looking again and again keeps what every look and every pause keeps. -/
theorem World.watch_keeps {world : World Request Answer σ} {J : σ → Prop} {request : Request}
    (hanswer : ∀ state, J state → J (world.answer request state).2)
    (hsleep : ∀ time state, J state → J (world.sleep time state))
    (pending : Answer request → Bool) (looks : Nat) (wait : Wait) (state : σ) (h : J state) :
    J (world.watch request pending looks wait state).2 := by
  induction looks generalizing wait state with
  | zero => exact h
  | succ looks ih =>
    simp only [World.watch]
    split
    · split
      · exact hanswer state h
      · exact ih _ _ (hsleep _ _ (hanswer state h))
    · exact hanswer state h

/-- A script keeps what each of its requests and every pause keeps. -/
theorem AsksOnly.run_keeps {world : World Request Answer σ} {patience : Nat} {J : σ → Prop}
    {P : Request → Prop}
    (hanswer : ∀ request, P request → ∀ state, J state → J (world.answer request state).2)
    (hsleep : ∀ time state, J state → J (world.sleep time state))
    {s : Script Request Answer ε α} (hs : AsksOnly P s) (state : σ) (h : J state) :
    J (s.run world patience state).2 := by
  induction s generalizing state with
  | done a => exact h
  | fail e => exact h
  | ask request next ih => exact ih _ (hs.2 _) _ (hanswer request hs.1 state h)
  | sleep time next ih => exact ih hs _ (hsleep time state h)
  | poll wait request pending next expired ihn ihe =>
    have hwatch := World.watch_keeps (hanswer request hs.1) hsleep pending
      (wait.looks patience) wait state h
    simp only [run]
    -- the look has seen something, the time is up, or the patience is
    rcases hlook : world.watch request pending (wait.looks patience) wait state with
      ⟨answer | _ | _, state'⟩ <;> rw [hlook] at hwatch
    · exact ihn answer (hs.2.1 answer) state' hwatch
    · exact ihe hs.2.2 state' hwatch
    · exact hwatch

/-- A script whose requests keep the invariant and `pre` upholds both. -/
theorem AsksOnly.upholds {world : World Request Answer σ} {patience : Nat} {I pre : σ → Prop}
    {P : Request → Prop} {s : Script Request Answer ε α} (hs : AsksOnly P s)
    (hanswer : ∀ request, P request → ∀ state, I state → pre state →
      I (world.answer request state).2 ∧ pre (world.answer request state).2)
    (hsleep : ∀ time state, I state → pre state →
      I (world.sleep time state) ∧ pre (world.sleep time state)) :
    Upholds world patience I pre s fun _ => pre := by
  intro state hI hpre
  have h : I (s.run world patience state).2 ∧ pre (s.run world patience state).2 :=
    hs.run_keeps (J := fun state => I state ∧ pre state)
      (fun request hP state hstate => hanswer request hP state hstate.1 hstate.2)
      (fun time state hstate => hsleep time state hstate.1 hstate.2) state ⟨hI, hpre⟩
  exact ⟨h.1, fun _ _ => h.2⟩

end Groundwork.Script
