import Groundwork.Script

/-!
# Waiting and trying again

The two loops that all waits are made of: `pollUntil` looks until the outside says yes, `retryIf`
tries again as long as the failure may pass.
-/

namespace Groundwork

/-- How often and how fast something is tried. -/
structure RetryPolicy where
  /-- The pause between two attempts. -/
  delay : Duration
  /-- The number of attempts; 0 counts as 1. -/
  maxAttempts : UInt32
  deriving DecidableEq

/-- Ten attempts with pauses of five seconds. -/
def RetryPolicy.usual : RetryPolicy := ⟨.ofSeconds 5, 10⟩

namespace Script

variable {Request : Type} {Answer : Request → Type} {ε α : Type}

/-- Asks again and again until `judge` says yes or fails.  When the wait is over, the script fails
with `overdue`. -/
def pollUntil (wait : Wait) (request : Request) (judge : Answer request → Except ε Bool)
    (overdue : ε) : Script Request Answer ε Unit :=
  .poll wait request
    (fun answer => match judge answer with
      | .ok false => true
      | _ => false)
    (fun answer => match judge answer with
      | .ok _ => .done ()
      | .error e => .fail e)
    (.fail overdue)

/-- Tries something again, `again` times at most, while `retryable` says of its error that it may
pass.  The last error is kept. -/
def retryLoop (delay : Duration) (retryable : ε → Script Request Answer ε Bool)
    (attempt : Script Request Answer ε α) : Nat → Script Request Answer ε α
  | 0 => attempt
  | again + 1 => attempt.handle fun
    | .ok a => .done a
    | .error e => (retryable e).andThen fun
      | true => .sleep delay (retryLoop delay retryable attempt again)
      | false => .fail e

/-- Tries something as often as the policy allows, while `retryable` says of its error that it may
pass. -/
def retryIf (policy : RetryPolicy) (retryable : ε → Script Request Answer ε Bool)
    (attempt : Script Request Answer ε α) : Script Request Answer ε α :=
  retryLoop policy.delay retryable attempt (max policy.maxAttempts.toNat 1 - 1)

end Script

end Groundwork
