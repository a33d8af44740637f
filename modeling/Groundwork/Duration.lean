/-!
# Durations

A length of time in whole nanoseconds, up to the largest number of seconds that 64 bits hold.
`scale` multiplies and stops at the largest duration.
-/

namespace Groundwork

/-- The nanoseconds of one second. -/
def nanosPerSecond : Nat := 1000000000

/-- The largest number that 64 bits hold. -/
def maxWord : Nat := 18446744073709551615

/-- The nanoseconds of the largest duration: the largest 64-bit number of seconds and all but one
of the nanoseconds of another. -/
def maxNanos : Nat := maxWord * nanosPerSecond + 999999999

/-- A length of time. -/
structure Duration where
  /-- Its nanoseconds. -/
  ns : Nat
  ns_le : ns ≤ maxNanos := by decide
  deriving DecidableEq

namespace Duration

/-- No time at all. -/
def zero : Duration := ⟨0, Nat.zero_le _⟩

instance : Inhabited Duration := ⟨zero⟩

/-- The largest duration. -/
def max : Duration := ⟨maxNanos, Nat.le_refl _⟩

/-- The duration of so many nanoseconds, or the largest one. -/
def ofNanos (n : Nat) : Duration := ⟨Nat.min n maxNanos, Nat.min_le_right _ _⟩

/-- The duration of so many seconds, or the largest one. -/
def ofSeconds (n : Nat) : Duration := ofNanos (n * nanosPerSecond)

/-- The duration of so many milliseconds, or the largest one. -/
def ofMillis (n : Nat) : Duration := ofNanos (n * 1000000)

/-- The duration `k` times over, or the largest one. -/
def scale (d : Duration) (k : Nat) : Duration := ofNanos (d.ns * k)

/-- The whole seconds in a duration. -/
def seconds (d : Duration) : Nat := d.ns / nanosPerSecond

/-- What is left of a duration when another is taken away; nothing if that is longer. -/
def minus (d e : Duration) : Duration :=
  ⟨d.ns - e.ns, Nat.le_trans (Nat.sub_le _ _) d.ns_le⟩

/-- The shorter of two durations. -/
def shorter (d e : Duration) : Duration := if d.ns ≤ e.ns then d else e

end Duration

end Groundwork
