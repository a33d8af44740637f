/-!
# Decimal integers

Writing: the shortest digits, with `-` before a negative number.  Reading: an optional sign and at
least one ASCII digit, and nothing else.
-/

namespace Groundwork.Text

/-- The ASCII digit of a number below ten. -/
def digitChar (n : Nat) : Char :=
  Char.ofNat (48 + n)

/-- The number an ASCII digit stands for. -/
def digitValue? (c : Char) : Option Nat :=
  if 48 ≤ c.toNat ∧ c.toNat ≤ 57 then some (c.toNat - 48) else none

/-- The decimal digits of a number, the highest first, without leading zeros. -/
def digits (n : Nat) : List Char :=
  if n < 10 then [digitChar n] else digits (n / 10) ++ [digitChar (n % 10)]
termination_by n
decreasing_by omega

/-- The decimal text of a natural number. -/
def decimal (n : Nat) : String :=
  String.ofList (digits n)

/-- The characters of the decimal text of an integer. -/
def signedDigits : Int → List Char
  | .ofNat n => digits n
  | .negSucc n => '-' :: digits (n + 1)

/-- The decimal text of an integer. -/
def signedDecimal (i : Int) : String :=
  String.ofList (signedDigits i)

/-- Continues reading digits after those that gave `soFar`. -/
def readDigitsFrom (soFar : Nat) : List Char → Option Nat
  | [] => some soFar
  | c :: cs => (digitValue? c).bind fun d => readDigitsFrom (soFar * 10 + d) cs

/-- The number written by one or more ASCII digits. -/
def readDigits : List Char → Option Nat
  | [] => none
  | c :: cs => readDigitsFrom 0 (c :: cs)

/-- The number written by an optional sign and one or more ASCII digits. -/
def readSigned : List Char → Option Int
  | '-' :: cs => (readDigits cs).map fun n : Nat => -(n : Int)
  | '+' :: cs => (readDigits cs).map fun n : Nat => (n : Int)
  | cs => (readDigits cs).map fun n : Nat => (n : Int)

/-- The 64-bit signed integer a text writes, if it is one and fits. -/
def readInt64? (s : String) : Option Int64 :=
  match readSigned s.toList with
  | some i =>
    if -9223372036854775808 ≤ i ∧ i ≤ 9223372036854775807 then some (Int64.ofInt i) else none
  | none => none

/-- The decimal text of a 64-bit signed integer. -/
def int64Text (i : Int64) : String :=
  signedDecimal i.toInt

end Groundwork.Text
