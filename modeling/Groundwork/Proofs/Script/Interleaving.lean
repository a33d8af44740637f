import Mathlib.Logic.Function.Basic
import Groundwork.Proofs.Script.History

/-!
# Scripts side by side

`step` is the least that a script does: it asks once, or it sleeps once.  `interleave` lets several
scripts take turns on one world, in the order of a schedule; any run of one of them to its end is
among these (`alone_of_run`).

`turn_recording` says all that a turn can do, so that an invariant of an interleaving
(`interleave_keeps`) is a matter of the first occurrences of a script (`Moves`).  `AsksUntil opens P`
says of a script that it asks nothing outside `P` before something `opens` the rest to it.

Scripts that share a world can be told apart by what they sign: `signed` puts a signature on all that
a script asks, and `unsigned` takes all signatures away again.
-/

namespace Groundwork.Script

variable {Request : Type} {Answer : Request → Type} {ε ε' α β σ : Type}

/-! ### Steps -/

/-- One step of a script: what is left of it, and the state after it.  A script that has ended stays
as it is. -/
def step (world : World Request Answer σ) :
    Script Request Answer ε α → σ → Script Request Answer ε α × σ
  | .done a, state => (.done a, state)
  | .fail e, state => (.fail e, state)
  | .ask request next, state =>
    let (answer, state) := world.answer request state
    (next answer, state)
  | .sleep time next, state => (next, world.sleep time state)
  | .poll wait request pending next expired, state =>
    let (answer, state) := world.answer request state
    if pending answer then
      match wait.pause? with
      | none => (expired, state)
      | some (time, wait) => (.sleep time (.poll wait request pending next expired), state)
    else (next answer, state)

/-- The first thing that may happen in a script, and what is left of the script then. -/
inductive Moves :
    Script Request Answer ε α → Occurrence Request Answer → Script Request Answer ε α → Prop
  | asks {request : Request} {next : Answer request → Script Request Answer ε α}
      (answer : Answer request) : Moves (.ask request next) (.asked request answer) (next answer)
  | sleeps {time : Duration} {next : Script Request Answer ε α} :
      Moves (.sleep time next) (.slept time) next
  | sees {wait : Wait} {request : Request} {pending : Answer request → Bool}
      {next : Answer request → Script Request Answer ε α} {expired : Script Request Answer ε α}
      (answer : Answer request) :
      Moves (.poll wait request pending next expired) (.asked request answer) (next answer)
  | expires {wait : Wait} {request : Request} {pending : Answer request → Bool}
      {next : Answer request → Script Request Answer ε α} {expired : Script Request Answer ε α}
      (answer : Answer request) :
      Moves (.poll wait request pending next expired) (.asked request answer) expired
  | waits {wait rest : Wait} {time : Duration} {request : Request}
      {pending : Answer request → Bool} {next : Answer request → Script Request Answer ε α}
      {expired : Script Request Answer ε α} (answer : Answer request) :
      Moves (.poll wait request pending next expired) (.asked request answer)
        (.sleep time (.poll rest request pending next expired))

/-- The occurrence takes the world from one state to the other. -/
def World.Plays (world : World Request Answer σ) : Occurrence Request Answer → σ → σ → Prop
  | .asked request answer, state, after => world.answer request state = (answer, after)
  | .slept time, state, after => world.sleep time state = after

/-- A step does nothing, or it does what may happen first, and that is recorded. -/
theorem step_recording (world : World Request Answer σ) (s : Script Request Answer ε α)
    (state : σ × History Request Answer) :
    s.step world.recording state = (s, state) ∨
      ∃ o rest after, Moves s o rest ∧ world.Plays o state.1 after ∧
        s.step world.recording state = (rest, after, state.2 ++ [o]) := by
  cases s with
  | done a => exact Or.inl rfl
  | fail e => exact Or.inl rfl
  | ask request next => exact Or.inr ⟨_, _, _, .asks _, rfl, rfl⟩
  | sleep time next => exact Or.inr ⟨_, _, _, .sleeps, rfl, rfl⟩
  | poll wait request pending next expired =>
    right
    simp only [step, World.recording_answer]
    by_cases hpending : pending (world.answer request state.1).1 = true
    · simp only [hpending, ↓reduceIte]
      rcases wait.pause? with _ | ⟨time, rest⟩
      · exact ⟨_, _, _, .expires _, rfl, rfl⟩
      · exact ⟨_, _, _, .waits _, rfl, rfl⟩
    · simp only [hpending, Bool.false_eq_true, ↓reduceIte]
      exact ⟨_, _, _, .sees _, rfl, rfl⟩

/-! ### Turns -/

section Turns

variable {ι : Type} [DecidableEq ι] {world : World Request Answer σ}

/-- One of the scripts makes a step. -/
def turn (world : World Request Answer σ) (who : ι)
    (runs : (ι → Script Request Answer ε α) × σ) : (ι → Script Request Answer ε α) × σ :=
  let (rest, state) := (runs.1 who).step world runs.2
  (Function.update runs.1 who rest, state)

/-- The scripts take turns as the schedule says. -/
def interleave (world : World Request Answer σ) (schedule : List ι)
    (runs : (ι → Script Request Answer ε α) × σ) : (ι → Script Request Answer ε α) × σ :=
  schedule.foldl (fun runs who => turn world who runs) runs

/-- What a turn does. -/
theorem turn_recording (world : World Request Answer σ) (who : ι)
    (runs : (ι → Script Request Answer ε α) × σ × History Request Answer) :
    turn world.recording who runs = runs ∨
      ∃ o rest after, Moves (runs.1 who) o rest ∧ world.Plays o runs.2.1 after ∧
        turn world.recording who runs =
          (Function.update runs.1 who rest, after, runs.2.2 ++ [o]) := by
  unfold turn
  rcases step_recording world (runs.1 who) runs.2 with hstep | ⟨o, rest, after, hmoves, hplays, hstep⟩
  · left
    rw [hstep]
    exact Prod.ext (Function.update_eq_self _ _) rfl
  · right
    exact ⟨o, rest, after, hmoves, hplays, by rw [hstep]⟩

/-- What every turn keeps is kept. -/
theorem interleave_keeps {I : (ι → Script Request Answer ε α) × σ → Prop}
    (hturn : ∀ who runs, I runs → I (turn world who runs)) (schedule : List ι)
    {runs : (ι → Script Request Answer ε α) × σ} (h : I runs) :
    I (interleave world schedule runs) := by
  induction schedule generalizing runs with
  | nil => exact h
  | cons who rest ih => exact ih (hturn who runs h)

/-- With this script in its place among the others, enough turns in a row lead to that one. -/
def Alone (world : World Request Answer σ) (runs : ι → Script Request Answer ε α) (who : ι)
    (start : Script Request Answer ε α × σ) (final : Script Request Answer ε α × σ) : Prop :=
  ∃ turns, interleave world (List.replicate turns who) (Function.update runs who start.1, start.2) =
    (Function.update runs who final.1, final.2)

namespace Alone

variable {runs : ι → Script Request Answer ε α} {who : ι}
  {start mid final : Script Request Answer ε α × σ}

theorem refl (start : Script Request Answer ε α × σ) : Alone world runs who start start :=
  ⟨0, rfl⟩

theorem trans (h : Alone world runs who start mid) (h' : Alone world runs who mid final) :
    Alone world runs who start final := by
  obtain ⟨turns, hturns⟩ := h
  obtain ⟨turns', hturns'⟩ := h'
  refine ⟨turns + turns', ?_⟩
  rw [interleave, ← List.replicate_append_replicate, List.foldl_append]
  exact (congrArg _ hturns).trans hturns'

theorem step (s : Script Request Answer ε α) (state : σ) :
    Alone world runs who (s, state) (s.step world state) := by
  refine ⟨1, ?_⟩
  simp [interleave, turn]

end Alone

variable {runs : ι → Script Request Answer ε α} {who : ι} {patience : Nat}

theorem alone_of_watch {request : Request} {pending : Answer request → Bool}
    {next : Answer request → Script Request Answer ε α} {expired : Script Request Answer ε α}
    {looks : Nat} {wait : Wait} {state after : σ} {look : Look (Answer request)}
    (h : world.watch request pending looks wait state = (look, after)) :
    (∀ answer, look = .seen answer →
      Alone world runs who (.poll wait request pending next expired, state) (next answer, after)) ∧
    (look = .expired →
      Alone world runs who (.poll wait request pending next expired, state) (expired, after)) := by
  induction looks generalizing wait state with
  | zero =>
    cases h
    constructor
    · intro answer hlook
      cases hlook
    · intro hlook
      cases hlook
  | succ looks ih =>
    have hstep : Alone world runs who (.poll wait request pending next expired, state) _ :=
      Alone.step _ _
    simp only [World.watch] at h
    simp only [Script.step] at hstep
    by_cases hpending : pending (world.answer request state).1 = true
    · simp only [hpending, ↓reduceIte] at h hstep
      rcases hpause : wait.pause? with _ | ⟨time, rest⟩
      · simp only [hpause] at h hstep
        cases h
        refine ⟨fun answer hlook => ?_, fun _ => hstep⟩
        cases hlook
      · simp only [hpause] at h hstep
        -- the pause is a step of its own
        have hrest := hstep.trans (Alone.step _ _)
        obtain ⟨hseen, hexpired⟩ := ih h
        exact ⟨fun answer hlook => hrest.trans (hseen answer hlook),
          fun hlook => hrest.trans (hexpired hlook)⟩
    · simp only [hpending, Bool.false_eq_true, ↓reduceIte] at h hstep
      cases h
      constructor
      · intro answer hlook
        cases hlook
        exact hstep
      · intro hlook
        cases hlook

/-- A script that is played to its end takes turns in a row. -/
theorem alone_of_run {s : Script Request Answer ε α} {state after : σ} {outcome : Except ε α}
    (h : s.run world patience state = (some outcome, after)) :
    Alone world runs who (s, state) (ofExcept outcome, after) := by
  induction s generalizing state with
  | done a =>
    cases h
    exact .refl _
  | fail e =>
    cases h
    exact .refl _
  | ask request next ih => exact (Alone.step _ _).trans (ih _ h)
  | sleep time next ih => exact (Alone.step _ _).trans (ih h)
  | poll wait request pending next expired ihn ihe =>
    simp only [run] at h
    rcases hwatch : world.watch request pending (wait.looks patience) wait state with
      ⟨answer | _ | _, mid⟩ <;> rw [hwatch] at h
    · exact ((alone_of_watch hwatch).1 answer rfl).trans (ihn answer h)
    · exact ((alone_of_watch hwatch).2 rfl).trans (ihe h)
    · cases h

end Turns

/-! ### What a script may ask from when on -/

/-- If the occurrence is a request, `P` holds of it. -/
def Occurrence.Within (P : Request → Prop) : Occurrence Request Answer → Prop
  | .asked request _ => P request
  | .slept _ => True

theorem AsksOnly.moves {P : Request → Prop} {s rest : Script Request Answer ε α}
    {o : Occurrence Request Answer} (h : AsksOnly P s) (hmoves : Moves s o rest) :
    AsksOnly P rest ∧ o.Within P := by
  cases hmoves with
  | asks answer => exact ⟨h.2 answer, h.1⟩
  | sleeps => exact ⟨h, trivial⟩
  | sees answer => exact ⟨h.2.1 answer, h.1⟩
  | expires answer => exact ⟨h.2.2, h.1⟩
  | waits answer => exact ⟨h, h.1⟩

/-- The script asks only requests of which `P` holds, until something `opens` all others to it. -/
def AsksUntil (opens : Occurrence Request Answer → Prop) (P : Request → Prop) :
    Script Request Answer ε α → Prop
  | .done _ => True
  | .fail _ => True
  | .ask request next =>
    P request ∧ ∀ answer, ¬ opens (.asked request answer) → AsksUntil opens P (next answer)
  | .sleep _ next => AsksUntil opens P next
  | .poll _ request _ next expired =>
    P request ∧ (∀ answer, ¬ opens (.asked request answer) → AsksUntil opens P (next answer)) ∧
      AsksUntil opens P expired

namespace AsksUntil

variable {opens : Occurrence Request Answer → Prop} {P : Request → Prop}

theorem of_asksOnly {s : Script Request Answer ε α} (h : AsksOnly P s) : AsksUntil opens P s := by
  induction s with
  | done a => trivial
  | fail e => trivial
  | ask request next ih => exact ⟨h.1, fun answer _ => ih answer (h.2 answer)⟩
  | sleep time next ih => exact ih h
  | poll wait request pending next expired ihn ihe =>
    exact ⟨h.1, fun answer _ => ihn answer (h.2.1 answer), ihe h.2.2⟩

theorem mono {Q : Request → Prop} {s : Script Request Answer ε α} (h : AsksUntil opens P s)
    (hPQ : ∀ request, P request → Q request) : AsksUntil opens Q s := by
  induction s with
  | done a => trivial
  | fail e => trivial
  | ask request next ih => exact ⟨hPQ _ h.1, fun answer hshut => ih answer (h.2 answer hshut)⟩
  | sleep time next ih => exact ih h
  | poll wait request pending next expired ihn ihe =>
    exact ⟨hPQ _ h.1, fun answer hshut => ihn answer (h.2.1 answer hshut), ihe h.2.2⟩

theorem handle {s : Script Request Answer ε α} {k : Except ε α → Script Request Answer ε' β}
    (hs : AsksUntil opens P s) (hk : ∀ outcome, AsksUntil opens P (k outcome)) :
    AsksUntil opens P (s.handle k) := by
  induction s with
  | done a => exact hk _
  | fail e => exact hk _
  | ask request next ih => exact ⟨hs.1, fun answer hshut => ih answer (hs.2 answer hshut)⟩
  | sleep time next ih => exact ih hs
  | poll wait request pending next expired ihn ihe =>
    exact ⟨hs.1, fun answer hshut => ihn answer (hs.2.1 answer hshut), ihe hs.2.2⟩

theorem andThen {s : Script Request Answer ε α} {f : α → Script Request Answer ε β}
    (hs : AsksUntil opens P s) (hf : ∀ a, AsksUntil opens P (f a)) :
    AsksUntil opens P (s.andThen f) := by
  apply hs.handle
  intro outcome
  cases outcome with
  | ok a => exact hf a
  | error e => trivial

theorem mapError {s : Script Request Answer ε α} {f : ε → ε'} (hs : AsksUntil opens P s) :
    AsksUntil opens P (s.mapError f) := by
  apply hs.handle
  intro outcome
  cases outcome <;> trivial

/-- What happens first is allowed, and it opens the rest or leaves it as it was. -/
theorem moves {s rest : Script Request Answer ε α} {o : Occurrence Request Answer}
    (h : AsksUntil opens P s) (hmoves : Moves s o rest) :
    (opens o ∨ AsksUntil opens P rest) ∧ o.Within P := by
  cases hmoves with
  | asks answer => exact ⟨Classical.or_iff_not_imp_left.mpr (h.2 answer), h.1⟩
  | sleeps => exact ⟨Or.inr h, trivial⟩
  | sees answer => exact ⟨Classical.or_iff_not_imp_left.mpr (h.2.1 answer), h.1⟩
  | expires answer => exact ⟨Or.inr h.2.2, h.1⟩
  | waits answer => exact ⟨Or.inr h, h.1⟩

end AsksUntil

/-! ### Signatures -/

section Signatures

variable {T : Type}

/-- The script, with a signature on all that it asks. -/
def signed (signature : T) :
    Script Request Answer ε α → Script (T × Request) (fun request => Answer request.2) ε α
  | .done a => .done a
  | .fail e => .fail e
  | .ask request next => .ask (signature, request) fun answer => (next answer).signed signature
  | .sleep time next => .sleep time (next.signed signature)
  | .poll wait request pending next expired =>
    .poll wait (signature, request) pending (fun answer => (next answer).signed signature)
      (expired.signed signature)

/-- The script without its signatures. -/
def unsigned :
    Script (T × Request) (fun request => Answer request.2) ε α → Script Request Answer ε α
  | .done a => .done a
  | .fail e => .fail e
  | .ask request next => .ask request.2 fun answer => (next answer).unsigned
  | .sleep time next => .sleep time next.unsigned
  | .poll wait request pending next expired =>
    .poll wait request.2 pending (fun answer => (next answer).unsigned) expired.unsigned

/-- The world that pays no attention to signatures. -/
def World.unsigning (world : World Request Answer σ) :
    World (T × Request) (fun request => Answer request.2) σ where
  answer request := world.answer request.2
  sleep := world.sleep

/-- The occurrence, with a signature if something is asked. -/
def Occurrence.signed (signature : T) :
    Occurrence Request Answer → Occurrence (T × Request) fun request => Answer request.2
  | .asked request answer => .asked (signature, request) answer
  | .slept time => .slept time

theorem unsigned_signed (signature : T) (s : Script Request Answer ε α) :
    (s.signed signature).unsigned = s := by
  induction s with
  | done a => rfl
  | fail e => rfl
  | ask request next ih => exact congrArg (ask request) (funext ih)
  | sleep time next ih => exact congrArg (sleep time) ih
  | poll wait request pending next expired ihn ihe =>
    exact congr (congrArg (poll wait request pending) (funext ihn)) ihe

theorem unsigned_handle (k : Except ε α → Script (T × Request) (fun r => Answer r.2) ε' β)
    (s : Script (T × Request) (fun request => Answer request.2) ε α) :
    (s.handle k).unsigned = s.unsigned.handle fun outcome => (k outcome).unsigned := by
  induction s with
  | done a => rfl
  | fail e => rfl
  | ask request next ih => exact congrArg (ask request.2) (funext ih)
  | sleep time next ih => exact congrArg (sleep time) ih
  | poll wait request pending next expired ihn ihe =>
    exact congr (congrArg (poll wait request.2 pending) (funext ihn)) ihe

theorem unsigned_andThen (f : α → Script (T × Request) (fun r => Answer r.2) ε β)
    (s : Script (T × Request) (fun request => Answer request.2) ε α) :
    (s.andThen f).unsigned = s.unsigned.andThen fun a => (f a).unsigned := by
  rw [andThen, unsigned_handle]
  congr 1
  funext outcome
  cases outcome <;> rfl

theorem World.watch_unsigning (world : World Request Answer σ) (request : T × Request)
    (pending : Answer request.2 → Bool) (looks : Nat) (wait : Wait) (state : σ) :
    (World.unsigning world).watch request pending looks wait state =
      world.watch request.2 pending looks wait state := by
  induction looks generalizing wait state with
  | zero => rfl
  | succ looks ih =>
    simp only [World.watch]
    by_cases hpending : pending (world.answer request.2 state).1 = true
    · have hpending' : pending ((World.unsigning world).answer request state).1 = true := hpending
      simp only [hpending, hpending', ↓reduceIte]
      rcases wait.pause? with _ | ⟨time, rest⟩
      · rfl
      · exact ih rest _
    · have hpending' : ¬ pending ((World.unsigning world).answer request state).1 = true := hpending
      simp only [hpending, hpending', Bool.false_eq_true, ↓reduceIte]
      rfl

/-- Where nobody pays attention to them, signatures make no difference. -/
theorem run_unsigning (world : World Request Answer σ) (patience : Nat)
    (s : Script (T × Request) (fun request => Answer request.2) ε α) (state : σ) :
    s.run (World.unsigning world) patience state = s.unsigned.run world patience state := by
  induction s generalizing state with
  | done a => rfl
  | fail e => rfl
  | ask request next ih => exact ih _ _
  | sleep time next ih => exact ih _
  | poll wait request pending next expired ihn ihe =>
    have hwatch := World.watch_unsigning world request pending (wait.looks patience) wait state
    simp only [run, unsigned, hwatch]
    rcases world.watch request.2 pending (wait.looks patience) wait state with ⟨answer | _ | _, mid⟩
    · exact ihn answer mid
    · exact ihe mid
    · rfl

theorem asksOnly_signed {P : Request → Prop} {s : Script Request Answer ε α} (h : AsksOnly P s)
    (signature : T) :
    AsksOnly (fun request => request.1 = signature ∧ P request.2) (s.signed signature) := by
  induction s with
  | done a => trivial
  | fail e => trivial
  | ask request next ih => exact ⟨⟨rfl, h.1⟩, fun answer => ih answer (h.2 answer)⟩
  | sleep time next ih => exact ih h
  | poll wait request pending next expired ihn ihe =>
    exact ⟨⟨rfl, h.1⟩, fun answer => ihn answer (h.2.1 answer), ihe h.2.2⟩

theorem AsksUntil.signed {key : Occurrence Request Answer} {P : Request → Prop}
    {s : Script Request Answer ε α} (h : AsksUntil (· = key) P s) (signature : T) :
    AsksUntil (· = key.signed signature) (fun request => request.1 = signature ∧ P request.2)
      (s.signed signature) := by
  induction s with
  | done a => trivial
  | fail e => trivial
  | ask request next ih =>
    refine ⟨⟨rfl, h.1⟩, fun answer hshut => ih answer (h.2 answer ?_)⟩
    rintro rfl
    exact hshut rfl
  | sleep time next ih => exact ih h
  | poll wait request pending next expired ihn ihe =>
    refine ⟨⟨rfl, h.1⟩, fun answer hshut => ihn answer (h.2.1 answer ?_), ihe h.2.2⟩
    rintro rfl
    exact hshut rfl

end Signatures

end Groundwork.Script
