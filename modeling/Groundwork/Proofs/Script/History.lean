import Groundwork.Proofs.Script.Run

/-!
# Histories of runs

`World.recording` is a world that writes down what a script asks, what it is answered and how long
it sleeps; otherwise it is the world that it records (`run_recording`).

A history `Obeys` a rule if every occurrence in it is allowed by the ones before it.  The rule is
kept by a script whose requests are all allowed (`AsksOnly.obeys`); requests that need a licence
are treated one by one with `Upholds.ask`.

Two worlds that agree on everything that happens in a run play it alike (`run_congr`).
-/

namespace Groundwork.Script

variable {Request : Type} {Answer : Request → Type} {ε α σ : Type}

/-- Something that happens in a run. -/
inductive Occurrence (Request : Type) (Answer : Request → Type) where
  | asked (request : Request) (answer : Answer request)
  | slept (time : Duration)

/-- What has happened in a run, in order. -/
abbrev History (Request : Type) (Answer : Request → Type) : Type :=
  List (Occurrence Request Answer)

/-- The world that also writes down what happens. -/
def World.recording (world : World Request Answer σ) :
    World Request Answer (σ × History Request Answer) where
  answer request state :=
    let (answer, next) := world.answer request state.1
    (answer, next, state.2 ++ [.asked request answer])
  sleep time state := (world.sleep time state.1, state.2 ++ [.slept time])

section Recording

variable {world : World Request Answer σ} {patience : Nat}

theorem World.recording_answer (request : Request) (state : σ × History Request Answer) :
    world.recording.answer request state =
      ((world.answer request state.1).1, (world.answer request state.1).2,
        state.2 ++ [.asked request (world.answer request state.1).1]) := rfl

theorem World.recording_sleep (time : Duration) (state : σ × History Request Answer) :
    world.recording.sleep time state = (world.sleep time state.1, state.2 ++ [.slept time]) := rfl

theorem World.watch_recording (world : World Request Answer σ) (request : Request)
    (pending : Answer request → Bool) (looks : Nat) (wait : Wait)
    (state : σ × History Request Answer) :
    (world.recording.watch request pending looks wait state).1 =
        (world.watch request pending looks wait state.1).1 ∧
      (world.recording.watch request pending looks wait state).2.1 =
        (world.watch request pending looks wait state.1).2 := by
  induction looks generalizing wait state with
  | zero => exact ⟨rfl, rfl⟩
  | succ looks ih =>
    simp only [World.watch, World.recording_answer]
    by_cases hpending : pending (world.answer request state.1).1 = true
    · simp only [hpending, ↓reduceIte]
      rcases wait.pause? with _ | ⟨time, rest⟩
      · exact ⟨rfl, rfl⟩
      · exact ih _ _
    · simp only [hpending, Bool.false_eq_true, ↓reduceIte, and_self]

/-- Recording changes neither the outcome of a run nor the state that it leaves. -/
theorem run_recording (s : Script Request Answer ε α) (state : σ × History Request Answer) :
    (s.run world.recording patience state).1 = (s.run world patience state.1).1 ∧
      (s.run world.recording patience state).2.1 = (s.run world patience state.1).2 := by
  induction s generalizing state with
  | done a => exact ⟨rfl, rfl⟩
  | fail e => exact ⟨rfl, rfl⟩
  | ask request next ih => exact ih _ _
  | sleep time next ih => exact ih _
  | poll wait request pending next expired ihn ihe =>
    obtain ⟨hlook, hstate⟩ := world.watch_recording request pending
      (wait.looks patience) wait state
    simp only [run]
    rcases hrec : world.recording.watch request pending (wait.looks patience) wait state with
      ⟨look, recorded⟩
    rcases hplain : world.watch request pending (wait.looks patience) wait state.1 with
      ⟨look', plain⟩
    rw [hrec, hplain] at hlook hstate
    simp only at hlook hstate
    subst hlook hstate
    cases look with
    | seen answer => exact ihn _ _
    | expired => exact ihe _
    | unfinished => exact ⟨rfl, rfl⟩

end Recording

/-! ### Worlds that agree -/

section Agreement

variable {world : World Request Answer σ} {patience : Nat}

theorem asksOnly_true (s : Script Request Answer ε α) : AsksOnly (fun _ => True) s := by
  induction s with
  | done a => trivial
  | fail e => trivial
  | ask request next ih => exact ⟨trivial, ih⟩
  | sleep time next ih => exact ih
  | poll wait request pending next expired ihn ihe => exact ⟨trivial, ihn, ihe⟩

theorem asked_mem_recording (request : Request) (state : σ × History Request Answer) :
    .asked request (world.answer request state.1).1 ∈ (world.recording.answer request state).2.2 :=
  List.mem_append_right _ (List.mem_singleton_self _)

theorem World.mem_watch_recording {o : Occurrence Request Answer} {request : Request}
    (pending : Answer request → Bool) (looks : Nat) (wait : Wait)
    {state : σ × History Request Answer} (h : o ∈ state.2) :
    o ∈ (world.recording.watch request pending looks wait state).2.2 := by
  apply World.watch_keeps (J := fun state : σ × History Request Answer => o ∈ state.2)
  · exact fun _ hstate => List.mem_append_left _ hstate
  · exact fun _ _ hstate => List.mem_append_left _ hstate
  · exact h

/-- What has happened stays in the history. -/
theorem mem_run_recording {o : Occurrence Request Answer} (s : Script Request Answer ε α)
    {state : σ × History Request Answer} (h : o ∈ state.2) :
    o ∈ (s.run world.recording patience state).2.2 := by
  apply (asksOnly_true s).run_keeps (J := fun state : σ × History Request Answer => o ∈ state.2)
  · exact fun _ _ _ hstate => List.mem_append_left _ hstate
  · exact fun _ _ hstate => List.mem_append_left _ hstate
  · exact h

variable {world' : World Request Answer σ} {good : (request : Request) → Answer request → Prop}

theorem World.watch_congr
    (hanswer : ∀ request state, good request (world.answer request state).1 →
      world'.answer request state = world.answer request state)
    (hsleep : ∀ time state, world'.sleep time state = world.sleep time state)
    (request : Request) (pending : Answer request → Bool) (looks : Nat) (wait : Wait)
    (state : σ × History Request Answer)
    (hgood : ∀ answer, .asked request answer ∈
      (world.recording.watch request pending looks wait state).2.2 → good request answer) :
    world'.watch request pending looks wait state.1 =
      world.watch request pending looks wait state.1 := by
  induction looks generalizing wait state with
  | zero => rfl
  | succ looks ih =>
    -- the first look is in the history, however the watch goes on
    have hfirst : good request (world.answer request state.1).1 := by
      apply hgood
      simp only [World.watch]
      split
      · split
        · exact asked_mem_recording request state
        · apply World.mem_watch_recording
          exact List.mem_append_left _ (asked_mem_recording request state)
      · exact asked_mem_recording request state
    simp only [World.watch, hanswer request state.1 hfirst]
    by_cases hpending : pending (world.answer request state.1).1 = true
    · simp only [hpending, ↓reduceIte]
      rcases hpause : wait.pause? with _ | ⟨time, rest⟩
      · rfl
      · simp only [hsleep]
        apply ih rest (world.recording.sleep time (world.recording.answer request state).2)
        intro answer hanswer
        apply hgood
        simpa only [World.watch, World.recording_answer, hpending, ↓reduceIte, hpause] using hanswer
    · simp only [hpending, Bool.false_eq_true, ↓reduceIte]

/-- A world that agrees with another one on all that happens in a run gives the same run. -/
theorem run_congr
    (hanswer : ∀ request state, good request (world.answer request state).1 →
      world'.answer request state = world.answer request state)
    (hsleep : ∀ time state, world'.sleep time state = world.sleep time state)
    (s : Script Request Answer ε α) (state : σ × History Request Answer)
    (hgood : ∀ request answer, .asked request answer ∈
      (s.run world.recording patience state).2.2 → good request answer) :
    s.run world' patience state.1 = s.run world patience state.1 := by
  induction s generalizing state with
  | done a => rfl
  | fail e => rfl
  | ask request next ih =>
    have hfirst : good request (world.answer request state.1).1 := by
      apply hgood
      exact mem_run_recording (next _) (asked_mem_recording request state)
    simp only [run, hanswer request state.1 hfirst]
    exact ih _ (world.recording.answer request state).2 hgood
  | sleep time next ih =>
    simp only [run, hsleep]
    exact ih (world.recording.sleep time state) hgood
  | poll wait request pending next expired ihn ihe =>
    obtain ⟨hlook, hstate⟩ := world.watch_recording request pending (wait.looks patience) wait state
    have hwatch : world'.watch request pending (wait.looks patience) wait state.1 =
        world.watch request pending (wait.looks patience) wait state.1 := by
      apply World.watch_congr hanswer hsleep
      intro answer hmem
      apply hgood
      simp only [run]
      rcases hrec : world.recording.watch request pending (wait.looks patience) wait state with
        ⟨look, recorded⟩
      rw [hrec] at hmem
      cases look with
      | seen a => exact mem_run_recording _ hmem
      | expired => exact mem_run_recording _ hmem
      | unfinished => exact hmem
    simp only [run] at hgood ⊢
    rw [hwatch]
    rcases hrec : world.recording.watch request pending (wait.looks patience) wait state with
      ⟨look, recorded⟩
    rcases hplain : world.watch request pending (wait.looks patience) wait state.1 with
      ⟨look', plain⟩
    rw [hrec, hplain] at hlook hstate
    rw [hrec] at hgood
    simp only at hlook hstate
    subst hlook hstate
    cases look with
    | seen answer => exact ihn answer recorded hgood
    | expired => exact ihe recorded hgood
    | unfinished => rfl

end Agreement

/-! ### Rules -/

/-- Every occurrence is allowed by the ones before it. -/
def History.Obeys (rule : History Request Answer → Occurrence Request Answer → Prop)
    (history : History Request Answer) : Prop :=
  ∀ before occurrence after, history = before ++ occurrence :: after → rule before occurrence

namespace History

variable {rule : History Request Answer → Occurrence Request Answer → Prop}

theorem obeys_nil : Obeys rule [] := by
  intro before occurrence after h
  simp at h

theorem Obeys.append {history : History Request Answer} {occurrence : Occurrence Request Answer}
    (h : Obeys rule history) (hrule : rule history occurrence) :
    Obeys rule (history ++ [occurrence]) := by
  intro before o after heq
  rcases List.eq_nil_or_concat after with rfl | ⟨front, last, rfl⟩
  · obtain ⟨rfl, hlast⟩ := List.append_inj' heq rfl
    obtain rfl : occurrence = o := by simpa using hlast
    exact hrule
  · have hshift : history ++ [occurrence] = (before ++ o :: front) ++ [last] := by
      simpa [List.append_assoc] using heq
    obtain ⟨hfront, -⟩ := List.append_inj' hshift rfl
    exact h before o front hfront

end History

/-- A script obeys a rule if all its requests are allowed where `pre` holds, and `pre` is about
what has happened already. -/
theorem AsksOnly.obeys {world : World Request Answer σ} {patience : Nat}
    {rule : History Request Answer → Occurrence Request Answer → Prop}
    {pre : History Request Answer → Prop} {P : Request → Prop} {s : Script Request Answer ε α}
    (hs : AsksOnly P s)
    (hstable : ∀ history occurrence, pre history → pre (history ++ [occurrence]))
    (hasked : ∀ request answer history, P request → pre history →
      rule history (.asked request answer))
    (hslept : ∀ time history, pre history → rule history (.slept time)) :
    Upholds world.recording patience (fun state => state.2.Obeys rule) (fun state => pre state.2) s
      fun _ state => pre state.2 := by
  apply hs.upholds
  · intro request hP state hobeys hpre
    exact ⟨hobeys.append (hasked _ _ _ hP hpre), hstable _ _ hpre⟩
  · intro time state hobeys hpre
    exact ⟨hobeys.append (hslept _ _ hpre), hstable _ _ hpre⟩

end Groundwork.Script
