import Mathlib.Data.Nat.Digits.Defs
import Mathlib.Tactic.Ring
import Groundwork.Text.Blank
import Groundwork.Text.Decimal

/-!
# Decimal numerals

A numeral is a sign, which may be left out, and one or more ASCII digits (`Numeral`).  `readSigned`
reads the numerals, with their values, and nothing else (`readSigned_eq_some_iff`), and of these
`readInt64?` reads the ones whose value is a signed 64-bit integer (`readInt64?_eq_some_iff`).  What
is written for an integer is a numeral of it (`numeral_signedDigits`), so it is read back.
-/

namespace Groundwork.Text

variable {c : Char} {cs ds : List Char} {i j : Int}

/-! ### Digits -/

/-- One or more ASCII digits. -/
def IsDigits (ds : List Char) : Prop :=
  ds ≠ [] ∧ ∀ c ∈ ds, c.isDigit = true

/-- The number that digits stand for, the highest digit first. -/
def digitsValue (ds : List Char) : Nat :=
  Nat.ofDigits 10 (ds.reverse.map fun c => c.toNat - 48)

theorem isDigit_iff : c.isDigit = true ↔ 48 ≤ c.toNat ∧ c.toNat ≤ 57 := by
  simp only [Char.isDigit, Bool.and_eq_true, decide_eq_true_eq, ge_iff_le,
    UInt32.le_iff_toNat_le]
  rfl

theorem digitValue?_eq (c : Char) :
    digitValue? c = if c.isDigit = true then some (c.toNat - 48) else none := by
  simp only [digitValue?, isDigit_iff]

/-- A digit in front counts as many tens as digits follow. -/
theorem digitsValue_cons (c : Char) (ds : List Char) :
    digitsValue (c :: ds) = (c.toNat - 48) * 10 ^ ds.length + digitsValue ds := by
  have hlength : (ds.reverse.map fun c : Char => c.toNat - 48).length = ds.length := by
    rw [List.length_map, List.length_reverse]
  rw [digitsValue, digitsValue, List.reverse_cons, List.map_append, List.map_singleton,
    Nat.ofDigits_append, Nat.ofDigits_singleton, hlength]
  ring

/-- A digit at the end makes everything before it ten times as much. -/
theorem digitsValue_append_singleton (ds : List Char) (c : Char) :
    digitsValue (ds ++ [c]) = digitsValue ds * 10 + (c.toNat - 48) := by
  rw [digitsValue, digitsValue, List.reverse_append, List.reverse_singleton, List.singleton_append,
    List.map_cons, Nat.ofDigits_cons]
  ring

/-- What was read before counts as many tens as digits follow. -/
theorem readDigitsFrom_eq_some_iff {soFar n : Nat} :
    readDigitsFrom soFar cs = some n ↔
      (∀ c ∈ cs, c.isDigit = true) ∧ n = soFar * 10 ^ cs.length + digitsValue cs := by
  -- each digit changes what was read before, so the statement is about any number
  induction cs generalizing soFar with
  | nil =>
    rw [readDigitsFrom, Option.some.injEq]
    simp [digitsValue, eq_comm (a := soFar)]
  | cons c cs ih =>
    rw [readDigitsFrom, digitValue?_eq, List.forall_mem_cons]
    by_cases hc : c.isDigit = true
    · have hvalue : (soFar * 10 + (c.toNat - 48)) * 10 ^ cs.length + digitsValue cs =
          soFar * 10 ^ (c :: cs).length + digitsValue (c :: cs) := by
        rw [digitsValue_cons, List.length_cons]
        ring
      rw [if_pos hc, Option.bind_some, ih, hvalue]
      simp only [hc, true_and]
    · rw [if_neg hc, Option.bind_none]
      simp [hc]

theorem readDigits_eq_some_iff {n : Nat} :
    readDigits cs = some n ↔ IsDigits cs ∧ n = digitsValue cs := by
  cases cs with
  | nil => simp [readDigits, IsDigits]
  | cons c cs =>
    rw [readDigits, readDigitsFrom_eq_some_iff, Nat.zero_mul, Nat.zero_add]
    simp only [IsDigits, ne_eq, reduceCtorEq, not_false_eq_true, true_and]

/-! ### Signs -/

/-- A sign, which may be left out, and one or more ASCII digits, with the integer that they stand
for. -/
inductive Numeral : List Char → Int → Prop where
  | unsigned {ds : List Char} (h : IsDigits ds) : Numeral ds (digitsValue ds)
  | plus {ds : List Char} (h : IsDigits ds) : Numeral ('+' :: ds) (digitsValue ds)
  | minus {ds : List Char} (h : IsDigits ds) : Numeral ('-' :: ds) (-(digitsValue ds : Int))

/-- No sign is a digit. -/
theorem readSigned_of_isDigits (h : IsDigits ds) :
    readSigned ds = (readDigits ds).map fun n : Nat => (n : Int) := by
  unfold readSigned
  split
  · exact absurd (h.2 '-' (List.mem_cons_self ..)) (by decide)
  · exact absurd (h.2 '+' (List.mem_cons_self ..)) (by decide)
  · rfl

theorem readSigned_eq_some_iff : readSigned cs = some i ↔ Numeral cs i := by
  constructor
  · intro h
    unfold readSigned at h
    split at h
    · obtain ⟨n, hn, rfl⟩ := Option.map_eq_some_iff.mp h
      obtain ⟨hds, rfl⟩ := readDigits_eq_some_iff.mp hn
      exact .minus hds
    · obtain ⟨n, hn, rfl⟩ := Option.map_eq_some_iff.mp h
      obtain ⟨hds, rfl⟩ := readDigits_eq_some_iff.mp hn
      exact .plus hds
    · obtain ⟨n, hn, rfl⟩ := Option.map_eq_some_iff.mp h
      obtain ⟨hds, rfl⟩ := readDigits_eq_some_iff.mp hn
      exact .unsigned hds
  · intro h
    cases h with
    | unsigned hds =>
      rw [readSigned_of_isDigits hds, readDigits_eq_some_iff.mpr ⟨hds, rfl⟩, Option.map_some]
    | plus hds => rw [readSigned, readDigits_eq_some_iff.mpr ⟨hds, rfl⟩, Option.map_some]
    | minus hds => rw [readSigned, readDigits_eq_some_iff.mpr ⟨hds, rfl⟩, Option.map_some]

/-- A numeral stands for one integer. -/
theorem Numeral.unique (hi : Numeral cs i) (hj : Numeral cs j) : i = j := by
  rw [← readSigned_eq_some_iff] at hi hj
  exact Option.some.inj (hi.symm.trans hj)

theorem Numeral.ne_nil (h : Numeral cs i) : cs ≠ [] := by
  cases h with
  | unsigned hds => exact hds.1
  | plus => exact List.cons_ne_nil _ _
  | minus => exact List.cons_ne_nil _ _

/-- Only the first character of a numeral can be a sign. -/
theorem Numeral.isDigit_of_mem_tail (h : Numeral cs i) (hc : c ∈ cs.tail) : c.isDigit = true := by
  cases h with
  | unsigned hds => exact hds.2 c (List.mem_of_mem_tail hc)
  | plus hds => exact hds.2 c hc
  | minus hds => exact hds.2 c hc

/-- No numeral is a numeral with something behind it that is not a digit. -/
theorem Numeral.not_append {rest : List Char} (h : Numeral cs i) (hc : c ∈ rest)
    (hdigit : c.isDigit = false) : ¬Numeral (cs ++ rest) j := by
  intro hall
  have htail : c ∈ (cs ++ rest).tail := by
    rw [List.tail_append_of_ne_nil h.ne_nil]
    exact List.mem_append_right _ hc
  have hall := hall.isDigit_of_mem_tail htail
  rw [hdigit] at hall
  exact Bool.false_ne_true hall

theorem isBlank_of_isDigit (h : c.isDigit = true) : isBlank c = false := by
  rw [isDigit_iff] at h
  simp [isBlank]
  omega

theorem Numeral.isBlank_eq_false (h : Numeral cs i) (hc : c ∈ cs) : isBlank c = false := by
  cases h with
  | unsigned hds => exact isBlank_of_isDigit (hds.2 c hc)
  | plus hds =>
    rcases List.mem_cons.mp hc with rfl | hc
    · decide
    · exact isBlank_of_isDigit (hds.2 c hc)
  | minus hds =>
    rcases List.mem_cons.mp hc with rfl | hc
    · decide
    · exact isBlank_of_isDigit (hds.2 c hc)

/-! ### Signed 64-bit integers -/

theorem readInt64?_eq_some_iff {s : String} {n : Int64} :
    readInt64? s = some n ↔ Numeral s.toList n.toInt := by
  have hlow := n.le_toInt
  have hhigh := n.toInt_lt
  unfold readInt64?
  rcases hread : readSigned s.toList with _ | i
  · -- nothing was read, so there is no numeral
    simp only [reduceCtorEq, ← readSigned_eq_some_iff, hread]
  · have hi := readSigned_eq_some_iff.mp hread
    constructor
    · -- what was read is in range, so the word stands for it
      intro h
      simp only [Option.ite_none_right_eq_some, Option.some.injEq] at h
      obtain ⟨⟨hle, hge⟩, rfl⟩ := h
      rw [Int64.toInt_ofInt_of_le (by omega) (by omega)]
      exact hi
    · -- a text is a numeral of one integer, and that of a word is in range
      intro h
      obtain rfl := hi.unique h
      have hrange : -9223372036854775808 ≤ n.toInt ∧ n.toInt ≤ 9223372036854775807 := by omega
      simp only [if_pos hrange, Int64.ofInt_toInt]

theorem readInt64?_eq_none_iff {s : String} :
    readInt64? s = none ↔ ∀ i, Numeral s.toList i → i < -2 ^ 63 ∨ 2 ^ 63 - 1 < i := by
  constructor
  · intro h i hi
    -- a numeral in range would have been read
    by_contra hrange
    rw [not_or, Int.not_lt, Int.not_lt] at hrange
    have htoInt : (Int64.ofInt i).toInt = i :=
      Int64.toInt_ofInt_of_le hrange.1 (by omega)
    have hsome : readInt64? s = some (Int64.ofInt i) := by
      rw [readInt64?_eq_some_iff, htoInt]
      exact hi
    rw [h] at hsome
    cases hsome
  · intro h
    rcases hread : readInt64? s with _ | n
    · rfl
    · have hlow := n.le_toInt
      have hhigh := n.toInt_lt
      have hout := h n.toInt (readInt64?_eq_some_iff.mp hread)
      omega

/-! ### Writing -/

theorem toNat_digitChar {d : Nat} (h : d < 10) : (digitChar d).toNat = 48 + d := by
  have hall : ∀ d < 10, (digitChar d).toNat = 48 + d := by decide
  exact hall d h

theorem isDigit_digitChar {d : Nat} (h : d < 10) : (digitChar d).isDigit = true := by
  rw [isDigit_iff, toNat_digitChar h]
  omega

theorem isDigits_digits (n : Nat) : IsDigits (digits n) := by
  induction n using digits.induct with
  | case1 n hlt =>
    rw [digits, if_pos hlt]
    refine ⟨List.cons_ne_nil _ _, ?_⟩
    rw [List.forall_mem_singleton]
    exact isDigit_digitChar hlt
  | case2 n hge ih =>
    -- the last digit stands behind those of a tenth of the number
    have hlast : (digitChar (n % 10)).isDigit = true :=
      isDigit_digitChar (Nat.mod_lt _ (by decide))
    rw [digits, if_neg hge]
    refine ⟨List.append_ne_nil_of_left_ne_nil ih.1 _, ?_⟩
    intro c hc
    rcases List.mem_append.mp hc with hc | hc
    · exact ih.2 c hc
    · rw [List.mem_singleton.mp hc]
      exact hlast

theorem digitsValue_digits (n : Nat) : digitsValue (digits n) = n := by
  induction n using digits.induct with
  | case1 n hlt =>
    rw [digits, if_pos hlt, digitsValue_cons, toNat_digitChar hlt]
    simp [digitsValue]
  | case2 n hge ih =>
    have hlast : n % 10 < 10 := Nat.mod_lt _ (by decide)
    rw [digits, if_neg hge, digitsValue_append_singleton, ih, toNat_digitChar hlast]
    omega

/-- What is written for an integer is a numeral of it. -/
theorem numeral_signedDigits (i : Int) : Numeral (signedDigits i) i := by
  cases i with
  | ofNat n =>
    have hnumeral := Numeral.unsigned (isDigits_digits n)
    rw [digitsValue_digits] at hnumeral
    exact hnumeral
  | negSucc n =>
    have hnumeral := Numeral.minus (isDigits_digits (n + 1))
    rw [digitsValue_digits] at hnumeral
    exact hnumeral

/-- The text of a signed 64-bit integer is read back. -/
theorem readInt64?_int64Text (n : Int64) : readInt64? (int64Text n) = some n := by
  rw [readInt64?_eq_some_iff, int64Text, signedDecimal, String.toList_ofList]
  exact numeral_signedDigits n.toInt

theorem isBlank_of_mem_int64Text {n : Int64} (hc : c ∈ (int64Text n).toList) :
    isBlank c = false := by
  rw [int64Text, signedDecimal, String.toList_ofList] at hc
  exact (numeral_signedDigits n.toInt).isBlank_eq_false hc

end Groundwork.Text
