import Groundwork.Duration
import Groundwork.Text.Blank
import Groundwork.Text.Decimal
import Groundwork.Text.Search

/-!
# Durations for people

Writing: the amounts of each unit from years down to nanoseconds, such as `1h 30m`.  Reading: one
or more amounts, each with a unit; an amount may have a fraction as long as nothing below a
nanosecond (for hours and more, a second) is left over.  Blanks may stand anywhere but inside a
unit's name.
-/

namespace Groundwork.Duration

/-! ### Writing -/

/-- An amount with its unit, unless it is nothing; `plural` is added to more than one. -/
def amountText (n : Nat) (unit plural : String) : List String :=
  if n = 0 then [] else [Text.decimal n ++ unit ++ (if n = 1 then "" else plural)]

/-- The duration in words. -/
def text (d : Duration) : String :=
  if d.ns = 0 then "0s"
  else
    let secs := d.ns / nanosPerSecond
    let nanos := d.ns % nanosPerSecond
    let inYear := secs % 31557600
    let inMonth := inYear % 2630016
    let inDay := inMonth % 86400
    Text.join " " <|
      amountText (secs / 31557600) "year" "s"
      ++ amountText (inYear / 2630016) "month" "s"
      ++ amountText (inMonth / 86400) "day" "s"
      ++ amountText (inDay / 3600) "h" ""
      ++ amountText (inDay % 3600 / 60) "m" ""
      ++ amountText (inDay % 60) "s" ""
      ++ amountText (nanos / 1000000) "ms" ""
      ++ amountText (nanos / 1000 % 1000) "us" ""
      ++ amountText (nanos % 1000) "ns" ""

/-! ### Units -/

/-- What an amount is counted in. -/
inductive Grain where
  | seconds
  | nanos
  deriving DecidableEq

/-- A unit of time: how much one of it is, and how much its fractions are counted against. -/
structure TimeUnit where
  whole : Grain × Nat
  part : Option (Grain × Nat)

/-- A unit whose amounts and fractions both come out in whole seconds. -/
def TimeUnit.long (seconds : Nat) : TimeUnit :=
  ⟨(.seconds, seconds), some (.seconds, seconds)⟩

/-- A unit of whole seconds whose fractions come out in nanoseconds. -/
def TimeUnit.middle (seconds : Nat) : TimeUnit :=
  ⟨(.seconds, seconds), some (.nanos, seconds * nanosPerSecond)⟩

/-- A unit below a second. -/
def TimeUnit.short (nanos : Nat) : TimeUnit :=
  ⟨(.nanos, nanos), if nanos = 1 then none else some (.nanos, nanos)⟩

/-- The names of the units. -/
def unitNames : List (List String × TimeUnit) :=
  [(["nanos", "nsec", "ns"], .short 1),
   (["usec", "us", "µs"], .short 1000),
   (["millis", "msec", "ms"], .short 1000000),
   (["seconds", "second", "secs", "sec", "s"], .middle 1),
   (["minutes", "minute", "mins", "min", "m"], .middle 60),
   (["hours", "hour", "hrs", "hr", "h"], .long 3600),
   (["days", "day", "d"], .long 86400),
   (["weeks", "week", "wks", "wk", "w"], .long 604800),
   (["months", "month", "M"], .long 2630016),
   (["years", "year", "yrs", "yr", "y"], .long 31557600)]

/-- The unit with this name. -/
def unitNamed? (name : String) : Option TimeUnit :=
  (unitNames.find? fun entry => entry.1.contains name).map Prod.snd

/-! ### Reading -/

/-- A number if it fits 64 bits. -/
def word? (n : Nat) : Option Nat :=
  if n ≤ maxWord then some n else none

/-- Adds an amount to the nanoseconds read so far, unless a 64-bit count overflows. -/
def addAmount (total : Nat) : Grain → Nat → Option Nat
  | .seconds, n => do
    let secs ← word? (total / nanosPerSecond + n)
    return secs * nanosPerSecond + total % nanosPerSecond
  | .nanos, n => do
    let nanos ← word? (total % nanosPerSecond + n)
    let secs ← word? (total / nanosPerSecond + nanos / nanosPerSecond)
    return secs * nanosPerSecond + nanos % nanosPerSecond

/-- A fraction: its digits as a number, and the power of ten they are counted against. -/
structure Fraction where
  digits : Nat
  scale : Nat

/-- Adds `n` and the fraction of the named unit to what was read so far. -/
def addUnit (total n : Nat) (fraction : Option Fraction) (name : List Char) : Option Nat := do
  let unit ← unitNamed? (String.ofList name)
  let amount ← word? (n * unit.whole.2)
  let total ← addAmount total unit.whole.1 amount
  match fraction with
  | none => return total
  | some f =>
    let (grain, size) ← unit.part
    let amount ← word? (f.digits * size)
    if amount % f.scale = 0 then addAmount total grain (amount / f.scale) else none

/-- Where the reader stands in the text. -/
inductive Reading where
  /-- Before an amount; `true` once one has been read. -/
  | between (started : Bool)
  /-- In the whole part of an amount. -/
  | whole (n : Nat)
  /-- In its fraction. -/
  | part (n : Nat) (fraction : Fraction)
  /-- In the name of its unit. -/
  | unit (n : Nat) (fraction : Option Fraction) (name : List Char)

/-- The letters of unit names. -/
def isUnitLetter (c : Char) : Bool :=
  c.isAlpha || c == 'µ'

/-- Reads one character after the nanoseconds `total` have been read. -/
def readChar (total : Nat) (state : Reading) (c : Char) : Option (Nat × Reading) :=
  match state, Text.digitValue? c with
  | .between _, some d => some (total, .whole d)
  | .between started, none => if Text.isBlank c then some (total, .between started) else none
  | .whole n, some d => do return (total, .whole (← word? (n * 10 + d)))
  | .whole n, none =>
    if Text.isBlank c then some (total, .whole n)
    else if isUnitLetter c then some (total, .unit n none [c])
    else if c = '.' then some (total, .part n ⟨0, 1⟩)
    else none
  | .part n f, some d => do
    let scale ← word? (f.scale * 10)
    let digits ← word? (f.digits * 10 + d)
    return (total, .part n ⟨digits, scale⟩)
  | .part n f, none =>
    if Text.isBlank c then some (total, .part n f)
    else if isUnitLetter c && f.scale != 1 then some (total, .unit n (some f) [c])
    else none
  | .unit n f name, some d => do return (← addUnit total n f name, .whole d)
  | .unit n f name, none =>
    if Text.isBlank c then do return (← addUnit total n f name, .between true)
    else if isUnitLetter c then some (total, .unit n f (name ++ [c]))
    else none

/-- Reads the rest of a text. -/
def readFrom (total : Nat) (state : Reading) : List Char → Option Nat
  | [] =>
    match state with
    | .between true => some total
    | .unit n f name => addUnit total n f name
    | _ => none
  | c :: cs => (readChar total state c).bind fun (total', next) => readFrom total' next cs

/-- The duration a text describes; `0` alone needs no unit. -/
def parse? (s : String) : Option Duration :=
  if s = "0" then some zero
  else (readFrom 0 (.between false) s.toList).map ofNanos

end Groundwork.Duration
