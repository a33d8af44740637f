import Groundwork.Proofs.Text.Numeral
import Groundwork.Proofs.Value

/-!
# What is read for a kind

Blanks at either end aside, exactly the numerals of signed 64-bit integers are read as integers
(`parse_integer_eq_some_iff`), and exactly eight words, in letters of either case, as truth values
(`parse_boolean_eq_some_iff`).  The whole text counts: a numeral out of range is not read
(`parse_integer_eq_none_iff`), and neither is a text that goes on behind a numeral or a word
(`parse_integer_append`, `parse_boolean_append`).
-/

namespace Groundwork.Value

open Text (Numeral trim lowerAscii)

variable {raw : String} {v : Value} {b : Bool}

/-! ### Integers -/

theorem parse_integer_eq_some_iff :
    parse .integer raw = some v ↔ ∃ n : Int64, v = .int n ∧ Numeral (trim raw).toList n.toInt := by
  rw [parse, Option.map_eq_some_iff]
  simp only [Text.readInt64?_eq_some_iff]
  constructor
  · rintro ⟨n, hn, rfl⟩
    exact ⟨n, rfl, hn⟩
  · rintro ⟨n, rfl, hn⟩
    exact ⟨n, hn, rfl⟩

theorem parse_integer_eq_none_iff :
    parse .integer raw = none ↔
      ∀ i, Numeral (trim raw).toList i → i < -2 ^ 63 ∨ 2 ^ 63 - 1 < i := by
  rw [parse, Option.map_eq_none_iff, Text.readInt64?_eq_none_iff]

/-- A numeral is not read for the sake of its beginning. -/
theorem parse_integer_append {front rest : List Char} {i : Int} {c : Char}
    (htext : (trim raw).toList = front ++ rest) (hfront : Numeral front i) (hc : c ∈ rest)
    (hdigit : c.isDigit = false) : parse .integer raw = none := by
  rw [parse_integer_eq_none_iff]
  intro j hj
  rw [htext] at hj
  exact absurd hj (hfront.not_append hc hdigit)

/-! ### Truth values -/

/-- The words that mean a truth value, in small letters. -/
def words : Bool → List String
  | true => yesWords
  | false => noWords

theorem parse_boolean_eq_some_iff :
    parse .boolean raw = some v ↔ ∃ b, v = .bool b ∧ lowerAscii (trim raw) ∈ words b := by
  have hread : ∀ b, readBool? (trim raw) = some b ↔ lowerAscii (trim raw) ∈ words b := by
    rintro (_ | _)
    · exact readBool?_eq_false_iff
    · exact readBool?_eq_true_iff
  rw [parse, Option.map_eq_some_iff]
  simp only [hread]
  constructor
  · rintro ⟨b, hb, rfl⟩
    exact ⟨b, rfl, hb⟩
  · rintro ⟨b, rfl, hb⟩
    exact ⟨b, hb, rfl⟩

/-- Of the words only `yes` and `no` begin with another one. -/
theorem eq_of_word_prefix :
    ∀ word ∈ words true ++ words false, ∀ front ∈ words true ++ words false,
      front.toList <+: word.toList → front = word ∨ word = "yes" ∨ word = "no" := by
  decide

theorem lowerAscii_append (s t : String) : lowerAscii (s ++ t) = lowerAscii s ++ lowerAscii t := by
  rw [lowerAscii, lowerAscii, lowerAscii, String.toList_append, List.map_append,
    String.ofList_append]

/-- A word is not read for the sake of its beginning: `yes` and `no` are words themselves. -/
theorem parse_boolean_append {front rest : String} (htext : trim raw = front ++ rest)
    (hrest : rest ≠ "") (hfront : lowerAscii front ∈ words b)
    (hyes : lowerAscii (trim raw) ≠ "yes") (hno : lowerAscii (trim raw) ≠ "no") :
    parse .boolean raw = none := by
  have hword : ∀ {word b}, word ∈ words b → word ∈ words true ++ words false := by
    rintro word (_ | _) h
    · exact List.mem_append_right _ h
    · exact List.mem_append_left _ h
  rcases hread : parse .boolean raw with _ | v
  · rfl
  · obtain ⟨b', -, hall⟩ := parse_boolean_eq_some_iff.mp hread
    have happend : lowerAscii (trim raw) = lowerAscii front ++ lowerAscii rest := by
      rw [htext, lowerAscii_append]
    have hprefix : (lowerAscii front).toList <+: (lowerAscii (trim raw)).toList := by
      rw [happend, String.toList_append]
      exact List.prefix_append _ _
    rcases eq_of_word_prefix _ (hword hall) _ (hword hfront) hprefix with heq | heq | heq
    · -- the two are one word, so nothing is left behind it
      have hlists := congrArg String.toList (heq.trans happend)
      rw [String.toList_append, List.self_eq_append_right, lowerAscii, String.toList_ofList,
        List.map_eq_nil_iff, String.toList_eq_nil_iff] at hlists
      exact absurd hlists hrest
    · exact absurd heq hyes
    · exact absurd heq hno

/-- Exactly the numerals of signed 64-bit integers are read as integers, with their value, and
exactly the eight words, in letters of either case, as truth values; blanks at either end do not
count.  A numeral out of range is not read, and neither is a text of which only the beginning is a
numeral or a word. -/
theorem parse_exact (raw : String) :
    (∀ v, parse .integer raw = some v ↔
        ∃ n : Int64, v = .int n ∧ Numeral (trim raw).toList n.toInt) ∧
      (parse .integer raw = none ↔
        ∀ i, Numeral (trim raw).toList i → i < -2 ^ 63 ∨ 2 ^ 63 - 1 < i) ∧
      (∀ front rest i c, (trim raw).toList = front ++ rest → Numeral front i → c ∈ rest →
        c.isDigit = false → parse .integer raw = none) ∧
      (∀ v, parse .boolean raw = some v ↔
        v = .bool true ∧ lowerAscii (trim raw) ∈ ["y", "yes", "true", "1"] ∨
          v = .bool false ∧ lowerAscii (trim raw) ∈ ["n", "no", "false", "0"]) ∧
      ∀ front rest b, trim raw = front ++ rest → rest ≠ "" → lowerAscii front ∈ words b →
        lowerAscii (trim raw) ≠ "yes" → lowerAscii (trim raw) ≠ "no" →
          parse .boolean raw = none := by
  refine ⟨fun v => parse_integer_eq_some_iff, parse_integer_eq_none_iff,
    fun front rest i c => parse_integer_append, ?_, fun front rest b => parse_boolean_append⟩
  intro v
  rw [parse_boolean_eq_some_iff, Bool.exists_bool]
  exact Or.comm

theorem parse_exact_edges :
    parse .integer " +007\n" = some (.int 7) ∧
      parse .integer "-9223372036854775808" = some (.int Int64.minValue) ∧
      parse .integer "9223372036854775808" = none ∧
      ((trim "12 3").toList = ['1', '2'] ++ [' ', '3'] ∧ Numeral ['1', '2'] 12 ∧
        parse .integer "12 3" = none) ∧
      parse .boolean "\tYes" = some (.bool true) ∧
      (trim "true!" = "true" ++ "!" ∧ lowerAscii "true" ∈ words true ∧
        parse .boolean "true!" = none) := by
  have hseven : Numeral (trim " +007\n").toList (7 : Int64).toInt :=
    Text.readSigned_eq_some_iff.mp (by decide)
  have hlowest : Numeral (trim "-9223372036854775808").toList Int64.minValue.toInt :=
    Text.readSigned_eq_some_iff.mp (by decide)
  have habove : Numeral (trim "9223372036854775808").toList (2 ^ 63) :=
    Text.readSigned_eq_some_iff.mp (by decide)
  have htwelve : Numeral ['1', '2'] 12 := Text.readSigned_eq_some_iff.mp (by decide)
  have hspaced : (trim "12 3").toList = ['1', '2'] ++ [' ', '3'] := by decide
  have hloud : trim "true!" = "true" ++ "!" := by decide
  obtain ⟨hinteger, -⟩ := parse_exact " +007\n"
  obtain ⟨hleast, -⟩ := parse_exact "-9223372036854775808"
  obtain ⟨-, hnone, -⟩ := parse_exact "9223372036854775808"
  obtain ⟨-, -, hcut, -⟩ := parse_exact "12 3"
  obtain ⟨-, -, -, hboolean, -⟩ := parse_exact "\tYes"
  obtain ⟨-, -, -, -, hlonger⟩ := parse_exact "true!"
  refine ⟨(hinteger _).mpr ⟨7, rfl, hseven⟩, (hleast _).mpr ⟨_, rfl, hlowest⟩, hnone.mpr ?_,
    ⟨hspaced, htwelve, ?_⟩, (hboolean _).mpr (Or.inl ⟨rfl, by decide⟩), hloud, by decide, ?_⟩
  · intro i hi
    obtain rfl := hi.unique habove
    exact Or.inr (by decide)
  · exact hcut _ _ 12 ' ' hspaced htwelve (List.mem_cons_self ..) (by decide)
  · exact hlonger _ _ true hloud (by decide) (by decide) (by decide) (by decide)

end Groundwork.Value
