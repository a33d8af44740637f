import Groundwork.Duration

/-!
# Durations in machine words

A duration takes two machine words: its whole seconds in 64 bits and, in 32 bits, the nanoseconds of
the second that is not over.  `times?` multiplies one word after the other and carries the seconds
that the nanoseconds make up.  There is no product where its seconds do not fit into 64 bits.
-/

namespace Groundwork

namespace Duration

/-- A duration in two machine words. -/
structure Words where
  /-- The whole seconds. -/
  seconds : UInt64
  /-- The nanoseconds of the second that is not over. -/
  nanos : UInt32
  nanos_lt : nanos.toNat < nanosPerSecond

namespace Words

/-- The duration that two words stand for. -/
def duration (w : Words) : Duration where
  ns := w.seconds.toNat * nanosPerSecond + w.nanos.toNat
  ns_le := by
    have hseconds : w.seconds.toNat ≤ maxWord := Nat.le_of_lt_succ w.seconds.toNat_lt
    have hnanos : w.nanos.toNat ≤ 999999999 := Nat.le_of_lt_succ w.nanos_lt
    exact Nat.add_le_add (Nat.mul_le_mul_right _ hseconds) hnanos

/-- The product of two 64-bit words, unless it takes more than 64 bits. -/
def timesWord? (a b : UInt64) : Option UInt64 :=
  if a.toNat * b.toNat ≤ maxWord then some (a * b) else none

/-- The sum of two 64-bit words, unless it takes more than 64 bits. -/
def plusWord? (a b : UInt64) : Option UInt64 :=
  if a.toNat + b.toNat ≤ maxWord then some (a + b) else none

/-- The nanoseconds of one second, as a word. -/
def second : UInt64 := .ofNat nanosPerSecond

/-- The nanoseconds `k` times over, in one word, which is long enough. -/
def nanosTimes (w : Words) (k : UInt32) : UInt64 :=
  w.nanos.toUInt64 * k.toUInt64

theorem toNat_mod_second (n : UInt64) :
    (n % second).toUInt32.toNat = n.toNat % nanosPerSecond := by
  have hsecond : second.toNat = nanosPerSecond := by decide
  have hlt : n.toNat % nanosPerSecond < nanosPerSecond := Nat.mod_lt _ (by decide)
  rw [UInt64.toNat_toUInt32, UInt64.toNat_mod, hsecond]
  apply Nat.mod_eq_of_lt
  simp only [nanosPerSecond] at *
  omega

/-- The words `k` times over, unless the seconds take more than 64 bits. -/
def times? (w : Words) (k : UInt32) : Option Words :=
  let nanos := w.nanosTimes k
  (timesWord? w.seconds k.toUInt64).bind fun seconds =>
    (plusWord? seconds (nanos / second)).map fun seconds =>
      { seconds
        nanos := (nanos % second).toUInt32
        nanos_lt := by rw [toNat_mod_second]; exact Nat.mod_lt _ (by decide) }

end Words

/-- The words of a duration. -/
def words (d : Duration) : Words where
  seconds := .ofNat d.seconds
  nanos := .ofNat (d.ns % nanosPerSecond)
  nanos_lt := by
    have hlt : d.ns % nanosPerSecond < nanosPerSecond := Nat.mod_lt _ (by decide)
    rw [UInt32.toNat_ofNat']
    exact Nat.lt_of_le_of_lt (Nat.mod_le _ _) hlt

/-- The duration `k` times over, unless it is longer than the largest one. -/
def times? (d : Duration) (k : UInt32) : Option Duration :=
  (d.words.times? k).map Words.duration

end Duration

end Groundwork
