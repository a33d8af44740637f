import Groundwork.Json.Parser
import Groundwork.Text.Search

/-!
# What plain scalars mean

A scalar without quotes may be nothing, a truth value or a number.  Whether it is one is decided by
its text alone.
-/

namespace Groundwork.Yaml.Plain

/-- Whether the text means nothing. -/
def isNull (s : String) : Bool :=
  s == "~" || s == "null" || s == "Null" || s == "NULL"

/-- The truth value a text means. -/
def bool? (s : String) : Option Bool :=
  if s = "true" ∨ s = "True" ∨ s = "TRUE" then some true
  else if s = "false" ∨ s = "False" ∨ s = "FALSE" then some false
  else none

/-! ### Integers -/

/-- The number that digits of a base up to 16 write; there has to be one. -/
def inBase? (base : Nat) (cs : List Char) : Option Nat :=
  if cs.isEmpty then none
  else cs.foldlM (fun n c => do
    let d ← Json.hexValue? c
    if d < base then some (n * base + d) else none) 0

/-- The base that the first two characters announce, and the characters after them. -/
def announcedBase? : List Char → Option (Nat × List Char)
  | '0' :: 'x' :: rest => some (16, rest)
  | '0' :: 'o' :: rest => some (8, rest)
  | '0' :: 'b' :: rest => some (2, rest)
  | _ => none

/-- The number that an integer without a sign writes: in an announced base, or in decimal digits
without a leading zero. -/
def magnitude? (cs : List Char) : Option Nat :=
  match announcedBase? cs with
  | some (base, rest) => inBase? base rest
  | none => if cs.length > 1 ∧ cs.head? = some '0' then none else inBase? 10 cs

/-- The integer a text means, within what 128 bits hold: the unsigned numbers and the negative
ones of a signed word. -/
def int? (s : String) : Option Int :=
  match s.toList with
  | '-' :: cs =>
    (magnitude? cs).bind fun n => if n ≤ Nat.pow 2 127 then some (-(n : Int)) else none
  | '+' :: cs => (magnitude? cs).bind unsigned?
  | cs => (magnitude? cs).bind unsigned?
where
  /-- A number that an unsigned word of 128 bits holds. -/
  unsigned? (n : Nat) : Option Int :=
    if n < Nat.pow 2 128 then some (n : Int) else none

/-- The integer a text without a minus sign means, up to a largest one. -/
def natUpTo? (largest : Nat) (s : String) : Option Nat :=
  if Text.startsWith s "-" then none
  else match int? s with
    | some (.ofNat n) => if n ≤ largest then some n else none
    | _ => none

/-! ### Other numbers -/

/-- Whether all characters are digits and the first of several is a zero, after a sign. -/
def isZeroPadded (s : String) : Bool :=
  let cs := match s.toList with
    | '-' :: cs => cs
    | '+' :: cs => cs
    | cs => cs
  cs.length > 1 && cs.head? == some '0' && cs.all Char.isDigit

/-- A decimal number with a fraction or an exponent: its digits without the point, how many of them
stand after the point, and the exponent.  The digits may be missing on one side of the point. -/
def decimal? (cs : List Char) : Option (Nat × Nat × Int) := do
  let (whole, rest) := cs.span Char.isDigit
  let (part, rest) := match rest with
    | '.' :: rest => rest.span Char.isDigit
    | rest => ([], rest)
  let digits := whole ++ part
  let n ← inBase? 10 digits
  match rest with
  | [] => return (n, part.length, 0)
  | e :: rest =>
    if e = 'e' ∨ e = 'E' then
      let exponent ← Text.readSigned rest
      return (n, part.length, exponent)
    else none

/-- The number of digits of a number. -/
def digitCount (n : Nat) : Nat :=
  if n = 0 then 0 else (Text.digits n).length

/-- Whether `n · 10 ^ e` rounds to a finite double: it lies below the middle between the largest
double and the next power of two. -/
def fitsDouble (n : Nat) (e : Int) : Bool :=
  let limit := Nat.pow 2 1024 - Nat.pow 2 970
  if n = 0 then true
  else if (digitCount n : Int) + e > 310 then false
  else if e ≥ 0 then decide (n * Nat.pow 10 e.toNat < limit)
  else if (digitCount n : Int) + e < 300 then true
  else decide (n < limit * Nat.pow 10 (-e).toNat)

/-- Whether the text means a number that is no integer: a finite decimal number, infinity or not a
number. -/
def isFloat (s : String) : Bool :=
  let cs := s.toList
  let isInfinity (cs : List Char) : Bool :=
    [".inf", ".Inf", ".INF"].contains (String.ofList cs)
  let finite (cs : List Char) : Bool := match decimal? cs with
    | some (n, places, exponent) => fitsDouble n (exponent - places)
    | none => false
  !isZeroPadded s && match cs with
    | '+' :: rest => isInfinity rest || finite rest
    | '-' :: rest => isInfinity rest || finite rest
    | _ => isInfinity cs || finite cs || [".nan", ".NaN", ".NAN"].contains s

end Groundwork.Yaml.Plain
