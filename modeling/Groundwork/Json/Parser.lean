import Groundwork.Json
import Groundwork.Text.Decimal

/-!
# Reading JSON

`parse?` reads one value and nothing but blanks around it.  Each reader takes the characters still
to come and gives back a value with the characters after it.  A value may be nested up to
`maxDepth` levels.
-/

namespace Groundwork.Json

/-- How many arrays and objects may stand inside one another. -/
def maxDepth : Nat := 127

/-- The characters without the blanks in front. -/
def skipBlanks : List Char → List Char
  | [] => []
  | c :: cs => if c = ' ' ∨ c = '\t' ∨ c = '\n' ∨ c = '\r' then skipBlanks cs else c :: cs

/-! ### Strings -/

/-- The number a hexadecimal digit stands for. -/
def hexValue? (c : Char) : Option Nat :=
  let n := c.toNat
  if 48 ≤ n ∧ n ≤ 57 then some (n - 48)
  else if 65 ≤ n ∧ n ≤ 70 then some (n - 55)
  else if 97 ≤ n ∧ n ≤ 102 then some (n - 87)
  else none

/-- The number that four hexadecimal digits write. -/
def hexQuad? (a b c d : Char) : Option Nat := do
  return (((← hexValue? a) * 16 + (← hexValue? b)) * 16 + (← hexValue? c)) * 16 + (← hexValue? d)

/-- The character of an escape of one letter. -/
def shortEscape? : Char → Option Char
  | '"' => some '"'
  | '\\' => some '\\'
  | '/' => some '/'
  | 'b' => some '\x08'
  | 'f' => some '\x0c'
  | 'n' => some '\n'
  | 'r' => some '\r'
  | 't' => some '\t'
  | _ => none

/-- The characters of a string up to its closing quote, and what follows.  A character above
U+FFFF may be written as two escapes; neither half may stand alone. -/
def readString : List Char → Option (List Char × List Char)
  | '"' :: rest => some ([], rest)
  | '\\' :: 'u' :: a :: b :: c :: d :: rest =>
    match hexQuad? a b c d with
    | none => none
    | some high =>
      if 0xD800 ≤ high ∧ high ≤ 0xDBFF then
        match rest with
        | '\\' :: 'u' :: e :: f :: g :: h :: rest' =>
          match hexQuad? e f g h with
          | some low =>
            if 0xDC00 ≤ low ∧ low ≤ 0xDFFF then
              (readString rest').map fun (cs, after) =>
                (Char.ofNat (0x10000 + (high - 0xD800) * 0x400 + (low - 0xDC00)) :: cs, after)
            else none
          | none => none
        | _ => none
      else if 0xDC00 ≤ high ∧ high ≤ 0xDFFF then none
      else (readString rest).map fun (cs, after) => (Char.ofNat high :: cs, after)
  | '\\' :: e :: rest =>
    match shortEscape? e with
    | some c => (readString rest).map fun (cs, after) => (c :: cs, after)
    | none => none
  | c :: rest =>
    if c.toNat < 32 then none
    else (readString rest).map fun (cs, after) => (c :: cs, after)
  | [] => none

/-! ### Numbers -/

/-- The digits in front and what follows them. -/
def spanDigits (cs : List Char) : List Char × List Char :=
  cs.span Char.isDigit

/-- The fraction of a number with its point, which may be missing, and what follows. -/
def readFraction : List Char → Option (List Char × List Char)
  | '.' :: cs =>
    let (ds, rest) := spanDigits cs
    if ds.isEmpty then none else some ('.' :: ds, rest)
  | cs => some ([], cs)

/-- The exponent of a number with its letter, which may be missing, and what follows. -/
def readExponent : List Char → Option (List Char × List Char)
  | c :: cs =>
    if c = 'e' ∨ c = 'E' then
      let (sign, cs') := match cs with
        | '+' :: r => (['+'], r)
        | '-' :: r => (['-'], r)
        | r => ([], r)
      let (ds, rest) := spanDigits cs'
      if ds.isEmpty then none else some (c :: sign ++ ds, rest)
    else some ([], c :: cs)
  | [] => some ([], [])

/-- A number after its sign, and what follows. -/
def readNumber (sign : List Char) (cs : List Char) : Option (Json × List Char) := do
  let (ds, rest) := spanDigits cs
  let n ← Text.readDigits ds
  if ds.length > 1 ∧ ds.head? = some '0' then none
  else
    let (fraction, rest) ← readFraction rest
    let (exponent, rest) ← readExponent rest
    if fraction.isEmpty ∧ exponent.isEmpty ∧ ¬(n = 0 ∧ sign ≠ []) then
      return (.integer (if sign.isEmpty then (n : Int) else -(n : Int)), rest)
    else return (.decimal (String.ofList (sign ++ ds ++ fraction ++ exponent)), rest)

/-! ### Values -/

mutual

/-- One value after blanks, and what follows. -/
def readValue (fuel depth : Nat) (cs : List Char) : Option (Json × List Char) :=
  match fuel with
  | 0 => none
  | fuel + 1 =>
    match skipBlanks cs with
    | 'n' :: 'u' :: 'l' :: 'l' :: rest => some (.null, rest)
    | 't' :: 'r' :: 'u' :: 'e' :: rest => some (.bool true, rest)
    | 'f' :: 'a' :: 'l' :: 's' :: 'e' :: rest => some (.bool false, rest)
    | '"' :: rest => (readString rest).map fun (s, after) => (.string (String.ofList s), after)
    | '-' :: rest => readNumber ['-'] rest
    | '[' :: rest =>
      match depth with
      | 0 => none
      | depth + 1 =>
        match skipBlanks rest with
        | ']' :: after => some (.array [], after)
        | _ => (readItems fuel depth rest).map fun (items, after) => (.array items, after)
    | '\x7b' :: rest =>
      match depth with
      | 0 => none
      | depth + 1 =>
        match skipBlanks rest with
        | '\x7d' :: after => some (.object [], after)
        | _ => (readMembers fuel depth rest).map fun (ms, after) => (.object ms, after)
    | rest => readNumber [] rest
termination_by structural fuel

/-- The items of an array up to its closing bracket. -/
def readItems (fuel depth : Nat) (cs : List Char) : Option (List Json × List Char) :=
  match fuel with
  | 0 => none
  | fuel + 1 =>
    match readValue fuel depth cs with
    | none => none
    | some (item, rest) =>
      match skipBlanks rest with
      | ']' :: after => some ([item], after)
      | ',' :: after => (readItems fuel depth after).map fun (items, end_) => (item :: items, end_)
      | _ => none
termination_by structural fuel

/-- The members of an object up to its closing brace. -/
def readMembers (fuel depth : Nat) (cs : List Char) : Option (List (String × Json) × List Char) :=
  match fuel with
  | 0 => none
  | fuel + 1 =>
    match skipBlanks cs with
    | '"' :: rest =>
      match readString rest with
      | none => none
      | some (key, afterKey) =>
        match skipBlanks afterKey with
        | ':' :: rest =>
          match readValue fuel depth rest with
          | none => none
          | some (value, rest) =>
            let member := (String.ofList key, value)
            match skipBlanks rest with
            | '\x7d' :: after => some ([member], after)
            | ',' :: after =>
              (readMembers fuel depth after).map fun (ms, end_) => (member :: ms, end_)
            | _ => none
        | _ => none
    | _ => none
termination_by structural fuel

end

/-- The value a text writes. -/
def parse? (s : String) : Option Json :=
  match readValue (2 * s.length + 2) maxDepth s.toList with
  | some (j, rest) => if (skipBlanks rest).isEmpty then some j else none
  | none => none

end Groundwork.Json
