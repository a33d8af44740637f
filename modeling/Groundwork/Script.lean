import Groundwork.Duration

/-!
# Scripts

What a program does, as data: it asks the outside for something and goes on with the answer, it
sleeps, it waits until an answer is no longer pending, and it ends with a result or an error.  A
script says nothing about the outside; `Script.run` plays it against a `World`.

Waiting is one step of a script, so that a wait without end is still a finite script.
-/

namespace Groundwork

/-! ### Waits -/

/-- How a wait goes on: how long it pauses after each look, and how much time it has left; `none` if
there is no end to it. -/
structure Wait where
  interval : Duration
  left : Option Duration
  deriving DecidableEq

namespace Wait

/-- The seconds from which on a deadline cannot be represented. -/
def endlessSeconds : Nat := 9223372036854775808

/-- A wait that looks once in every interval until a budget is used up.  A budget too long for a
deadline has no end. -/
def within (interval budget : Duration) : Wait :=
  ⟨interval, if budget.seconds < endlessSeconds then some budget else none⟩

/-- How long to pause now, and the wait after that; `none` when the time is used up.  The last pause
ends with the time. -/
def pause? (w : Wait) : Option (Duration × Wait) :=
  match w.left with
  | none => some (w.interval, w)
  | some left =>
    if left.ns = 0 then none
    else
      let time := w.interval.shorter left
      some (time, { w with left := some (left.minus time) })

/-- As many looks as a wait can take; a wait without end, or without pauses, takes `patience`. -/
def looks (w : Wait) (patience : Nat) : Nat :=
  match w.left with
  | none => patience
  | some left =>
    if left.ns = 0 then 1
    else if w.interval.ns = 0 then patience
    else left.ns / w.interval.ns + 2

end Wait

/-! ### Scripts -/

/-- A program that asks `Request`s of the outside, each with its own type of answer, and ends with
an `α` or an error. -/
inductive Script (Request : Type) (Answer : Request → Type) (ε α : Type) : Type where
  /-- The end, with a result. -/
  | done (a : α)
  /-- The end, with an error. -/
  | fail (e : ε)
  /-- Asks and goes on with the answer. -/
  | ask (request : Request) (next : Answer request → Script Request Answer ε α)
  /-- Lets time pass. -/
  | sleep (time : Duration) (next : Script Request Answer ε α)
  /-- Asks again and again until the answer is not pending, or goes on with `expired` when the wait
  is over. -/
  | poll (wait : Wait) (request : Request) (pending : Answer request → Bool)
      (next : Answer request → Script Request Answer ε α) (expired : Script Request Answer ε α)

namespace Script

variable {Request : Type} {Answer : Request → Type} {ε ε' α β : Type}

instance [Inhabited α] : Inhabited (Script Request Answer ε α) := ⟨.done default⟩

/-- Goes on with whatever a script ends with. -/
def handle (k : Except ε α → Script Request Answer ε' β) :
    Script Request Answer ε α → Script Request Answer ε' β
  | .done a => k (.ok a)
  | .fail e => k (.error e)
  | .ask request next => .ask request fun answer => (next answer).handle k
  | .sleep time next => .sleep time (next.handle k)
  | .poll wait request pending next expired =>
    .poll wait request pending (fun answer => (next answer).handle k) (expired.handle k)

/-- Goes on with the result of a script; an error ends both. -/
def andThen (s : Script Request Answer ε α) (f : α → Script Request Answer ε β) :
    Script Request Answer ε β :=
  s.handle fun
    | .ok a => f a
    | .error e => .fail e

instance : Monad (Script Request Answer ε) where
  pure := .done
  bind := andThen

instance : MonadExcept ε (Script Request Answer ε) where
  throw := .fail
  tryCatch s recover := s.handle fun
    | .ok a => .done a
    | .error e => recover e

/-- A script that ends with its own outcome instead of failing. -/
def attempt (s : Script Request Answer ε α) : Script Request Answer ε (Except ε α) :=
  s.handle .done

/-- The script with its error changed. -/
def mapError (f : ε → ε') (s : Script Request Answer ε α) : Script Request Answer ε' α :=
  s.handle fun
    | .ok a => .done a
    | .error e => .fail (f e)

/-- The script that ends with an outcome at once. -/
def ofExcept : Except ε α → Script Request Answer ε α
  | .ok a => .done a
  | .error e => .fail e

/-! ### Running -/

/-- An outside with a state: how it answers, and how time passes in it. -/
structure World (Request : Type) (Answer : Request → Type) (σ : Type) where
  answer : (request : Request) → σ → Answer request × σ
  sleep : Duration → σ → σ

/-- How a wait ends. -/
inductive Look (α : Type) where
  /-- With an answer. -/
  | seen (answer : α)
  /-- Because its time was used up. -/
  | expired
  /-- Not within the looks that were granted. -/
  | unfinished

variable {σ : Type}

/-- Waits for an answer that is not pending, with at most so many looks. -/
def World.watch (world : World Request Answer σ) (request : Request)
    (pending : Answer request → Bool) : Nat → Wait → σ → Look (Answer request) × σ
  | 0, _, state => (.unfinished, state)
  | looks + 1, wait, state =>
    let (answer, state) := world.answer request state
    if pending answer then
      match wait.pause? with
      | none => (.expired, state)
      | some (time, wait) => world.watch request pending looks wait (world.sleep time state)
    else (.seen answer, state)

/-- Plays a script.  The outcome is `none` if a wait without end takes more looks than
`patience` says. -/
def run (world : World Request Answer σ) (patience : Nat) :
    Script Request Answer ε α → σ → Option (Except ε α) × σ
  | .done a, state => (some (.ok a), state)
  | .fail e, state => (some (.error e), state)
  | .ask request next, state =>
    let (answer, state) := world.answer request state
    (next answer).run world patience state
  | .sleep time next, state => next.run world patience (world.sleep time state)
  | .poll wait request pending next expired, state =>
    match world.watch request pending (wait.looks patience) wait state with
    | (.seen answer, state) => (next answer).run world patience state
    | (.expired, state) => expired.run world patience state
    | (.unfinished, state) => (none, state)

end Script

end Groundwork
