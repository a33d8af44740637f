import Groundwork.Duration.Words

/-!
# Arithmetic of durations

Durations are known by their nanoseconds, and multiplying one stops at the largest (`ns_scale`).  The
product in two machine words, with a carry from the nanoseconds to the seconds (`Words.times?`), is
the exact product wherever a duration can hold that, and there is none elsewhere (`times?_of_le`,
`times?_of_lt`).  So it agrees with the product that stops at the largest duration (`getD_times?`).
-/

namespace Groundwork

namespace Duration

variable {d e : Duration} {k l : Nat}

/-! ### Nanoseconds -/

theorem eq_of_ns (h : d.ns = e.ns) : d = e := by
  cases d
  cases e
  cases h
  rfl

theorem ns_shorter (d e : Duration) : (d.shorter e).ns = min d.ns e.ns := by
  unfold shorter
  split <;> omega

theorem ns_scale (d : Duration) (k : Nat) : (d.scale k).ns = min (d.ns * k) maxNanos :=
  rfl

/-- No duration is so long that multiplying another one stops before it. -/
theorem ns_minus_scale (d e : Duration) (n : Nat) :
    (d.minus (e.scale n)).ns = d.ns - n * e.ns := by
  have hle := d.ns_le
  show d.ns - (e.scale n).ns = _
  rw [ns_scale, Nat.mul_comm e.ns n]
  omega

theorem ns_le_scale (d : Duration) (hk : 1 ≤ k) : d.ns ≤ (d.scale k).ns := by
  rw [ns_scale]
  exact Nat.le_min.mpr ⟨Nat.le_mul_of_pos_right _ hk, d.ns_le⟩

theorem scale_mono (hd : d.ns ≤ e.ns) (hk : k ≤ l) : (d.scale k).ns ≤ (e.scale l).ns := by
  rw [ns_scale, ns_scale]
  have hproduct : d.ns * k ≤ e.ns * l := Nat.mul_le_mul hd hk
  omega

/-! ### Machine words -/

/-- Whole seconds and less than a second more are a duration if and only if the seconds fit into a
word. -/
theorem le_maxNanos_iff {seconds rest : Nat} (h : rest < nanosPerSecond) :
    seconds * nanosPerSecond + rest ≤ maxNanos ↔ seconds ≤ maxWord := by
  have hpos : 0 < nanosPerSecond := by decide
  have hmax : maxNanos + 1 = (maxWord + 1) * nanosPerSecond := by decide
  have hseconds : (seconds * nanosPerSecond + rest) / nanosPerSecond = seconds := by
    rw [Nat.add_comm, Nat.add_mul_div_right _ _ hpos, Nat.div_eq_of_lt h, Nat.zero_add]
  rw [← Nat.lt_succ_iff, Nat.succ_eq_add_one, hmax, ← Nat.div_lt_iff_lt_mul hpos, hseconds,
    Nat.lt_succ_iff]

namespace Words

variable {a b : UInt64} {w : Words} {k : UInt32}

theorem toNat_times (h : a.toNat * b.toNat ≤ maxWord) : (a * b).toNat = a.toNat * b.toNat := by
  rw [UInt64.toNat_mul]
  exact Nat.mod_eq_of_lt (Nat.lt_succ_of_le h)

theorem toNat_plus (h : a.toNat + b.toNat ≤ maxWord) : (a + b).toNat = a.toNat + b.toNat := by
  rw [UInt64.toNat_add]
  exact Nat.mod_eq_of_lt (Nat.lt_succ_of_le h)

/-- The nanoseconds of less than a second, at most 2^32 times over, take less than 64 bits. -/
theorem toNat_nanosTimes (w : Words) (k : UInt32) :
    (w.nanosTimes k).toNat = w.nanos.toNat * k.toNat := by
  have hnanos : w.nanos.toNat ≤ nanosPerSecond := Nat.le_of_lt w.nanos_lt
  have hk : k.toNat ≤ 2 ^ 32 := Nat.le_of_lt k.toNat_lt
  have hle : w.nanos.toNat * k.toNat ≤ maxWord := by
    calc w.nanos.toNat * k.toNat ≤ nanosPerSecond * 2 ^ 32 := Nat.mul_le_mul hnanos hk
      _ ≤ maxWord := by decide
  exact toNat_times hle

theorem toNat_div_second (n : UInt64) : (n / second).toNat = n.toNat / nanosPerSecond := by
  have hsecond : second.toNat = nanosPerSecond := by decide
  rw [UInt64.toNat_div, hsecond]

/-- The whole seconds of a product: those of the seconds, and those that the nanoseconds make up. -/
def secondsTimes (w : Words) (k : UInt32) : Nat :=
  w.seconds.toNat * k.toNat + w.nanos.toNat * k.toNat / nanosPerSecond

/-- The exact product, cut into whole seconds and the rest. -/
theorem ns_mul_eq (w : Words) (k : UInt32) :
    w.duration.ns * k.toNat =
      w.secondsTimes k * nanosPerSecond + w.nanos.toNat * k.toNat % nanosPerSecond := by
  have hcarry := Nat.div_add_mod (w.nanos.toNat * k.toNat) nanosPerSecond
  calc w.duration.ns * k.toNat
      = w.seconds.toNat * k.toNat * nanosPerSecond + w.nanos.toNat * k.toNat := by
        rw [duration, Nat.add_mul, Nat.mul_right_comm]
    _ = w.secondsTimes k * nanosPerSecond + w.nanos.toNat * k.toNat % nanosPerSecond := by
        rw [secondsTimes, Nat.add_mul, Nat.add_assoc, Nat.mul_comm (_ / _), hcarry]

/-- A product is a duration if and only if its whole seconds fit into a word. -/
theorem ns_mul_le_iff (w : Words) (k : UInt32) :
    w.duration.ns * k.toNat ≤ maxNanos ↔ w.secondsTimes k ≤ maxWord := by
  rw [ns_mul_eq]
  exact le_maxNanos_iff (Nat.mod_lt _ (by decide))

/-- The sum that is formed in words, where the seconds by themselves fit. -/
theorem toNat_add_carry (h : w.seconds.toNat * k.toUInt64.toNat ≤ maxWord) :
    (w.seconds * k.toUInt64).toNat + (w.nanosTimes k / second).toNat = w.secondsTimes k := by
  rw [toNat_times h, toNat_div_second, toNat_nanosTimes, UInt32.toNat_toUInt64, secondsTimes]

theorem times?_of_le (h : w.duration.ns * k.toNat ≤ maxNanos) :
    ∃ w', w.times? k = some w' ∧ w'.duration.ns = w.duration.ns * k.toNat := by
  have hsum : w.secondsTimes k ≤ maxWord := (ns_mul_le_iff w k).mp h
  -- the seconds fit with the carry, and so they do alone
  have hseconds : w.seconds.toNat * k.toUInt64.toNat ≤ maxWord := by
    rw [UInt32.toNat_toUInt64]
    exact Nat.le_trans (Nat.le_add_right _ _) hsum
  have hadd := toNat_add_carry hseconds
  have hplus : (w.seconds * k.toUInt64).toNat + (w.nanosTimes k / second).toNat ≤ maxWord := by
    rw [hadd]
    exact hsum
  simp only [times?, timesWord?, if_pos hseconds, plusWord?, Option.bind_some, if_pos hplus,
    Option.map_some]
  refine ⟨_, rfl, ?_⟩
  simp only [duration]
  rw [toNat_plus hplus, hadd, toNat_mod_second, toNat_nanosTimes]
  exact (ns_mul_eq w k).symm

theorem times?_of_lt (h : maxNanos < w.duration.ns * k.toNat) : w.times? k = none := by
  have hsum : maxWord < w.secondsTimes k := by
    rw [← Nat.not_le, ← ns_mul_le_iff]
    exact Nat.not_le.mpr h
  simp only [times?, timesWord?, plusWord?]
  by_cases hseconds : w.seconds.toNat * k.toUInt64.toNat ≤ maxWord
  · -- the seconds fit by themselves, so it is the carry that does not
    have hplus :
        ¬((w.seconds * k.toUInt64).toNat + (w.nanosTimes k / second).toNat ≤ maxWord) := by
      rw [toNat_add_carry hseconds]
      exact Nat.not_le.mpr hsum
    rw [if_pos hseconds, Option.bind_some, if_neg hplus, Option.map_none]
  · rw [if_neg hseconds, Option.bind_none]

end Words

/-! ### The product of a duration -/

/-- The words of a duration stand for it. -/
theorem duration_words (d : Duration) : d.words.duration = d := by
  have hnanos : d.ns % nanosPerSecond < nanosPerSecond := Nat.mod_lt _ (by decide)
  have hns : d.seconds * nanosPerSecond + d.ns % nanosPerSecond = d.ns :=
    Nat.div_add_mod' d.ns nanosPerSecond
  have hseconds : d.seconds ≤ maxWord := by
    rw [← le_maxNanos_iff hnanos, hns]
    exact d.ns_le
  have hsecondsWord : (UInt64.ofNat d.seconds).toNat = d.seconds :=
    UInt64.toNat_ofNat_of_lt' (Nat.lt_succ_of_le hseconds)
  have hnanosWord : (UInt32.ofNat (d.ns % nanosPerSecond)).toNat = d.ns % nanosPerSecond :=
    UInt32.toNat_ofNat_of_lt' (Nat.lt_trans hnanos (by decide))
  apply eq_of_ns
  show (UInt64.ofNat d.seconds).toNat * nanosPerSecond +
    (UInt32.ofNat (d.ns % nanosPerSecond)).toNat = d.ns
  rw [hsecondsWord, hnanosWord, hns]

/-- The product in machine words, or the largest duration, is the product that stops at the largest
duration. -/
theorem getD_times? (d : Duration) (k : UInt32) : (d.times? k).getD max = d.scale k.toNat := by
  apply eq_of_ns
  rw [ns_scale, times?]
  rcases Nat.lt_or_ge maxNanos (d.ns * k.toNat) with hlt | hle
  · have hnone : d.words.times? k = none := by
      apply Words.times?_of_lt
      rw [duration_words]
      exact hlt
    rw [hnone, Nat.min_eq_right (Nat.le_of_lt hlt)]
    rfl
  · have hwords : d.words.duration.ns * k.toNat ≤ maxNanos := by
      rw [duration_words]
      exact hle
    obtain ⟨w, hw, hns⟩ := Words.times?_of_le hwords
    rw [hw, Option.map_some, Option.getD_some, hns, duration_words, Nat.min_eq_left hle]

end Duration

end Groundwork
