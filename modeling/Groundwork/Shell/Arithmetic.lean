import Groundwork.Shell.Token
import Groundwork.Text.Decimal

/-!
# Expressions

Integer expressions as the shell writes them.  A comparison is 1 or 0, division goes toward zero,
and a name without a value is 0.
-/

namespace Groundwork.Shell.Arithmetic

/-- A piece of an expression. -/
inductive Piece where
  | number (n : Nat)
  | name (s : String)
  | sign (s : String)
  deriving DecidableEq

/-- The pieces that characters write; so many in front are left out. -/
def pieces : Nat → List Char → List Piece
  | _, [] => []
  | n + 1, _ :: cs => pieces n cs
  | 0, c :: cs =>
    if c.isDigit then
      let more := cs.takeWhile Char.isDigit
      .number ((Text.readDigits (c :: more)).getD 0) :: pieces more.length cs
    else if isNameStart c then
      let more := cs.takeWhile isNameChar
      .name (String.ofList (c :: more)) :: pieces more.length cs
    else if c = '$' then
      match cs with
      | d :: _ => if d.isDigit then .name (String.ofList [d]) :: pieces 1 cs else pieces 0 cs
      | [] => []
    else if " \t\n\x7b\x7d".toList.contains c then pieces 0 cs
    else
      match cs with
      | d :: _ =>
        if [['=', '='], ['!', '='], ['<', '='], ['>', '='], ['&', '&'], ['|', '|']].contains [c, d]
        then .sign (String.ofList [c, d]) :: pieces 1 cs
        else .sign (String.ofList [c]) :: pieces 0 cs
      | [] => [.sign (String.ofList [c])]

/-- A truth value as a number. -/
def ofBool (b : Bool) : Int := if b then 1 else 0

/-- How tightly an operator binds, and what it does. -/
def operation? : String → Option (Nat × (Int → Int → Option Int))
  | "||" => some (1, fun a b => some (ofBool (a != 0 || b != 0)))
  | "&&" => some (2, fun a b => some (ofBool (a != 0 && b != 0)))
  | "==" => some (3, fun a b => some (ofBool (a == b)))
  | "!=" => some (3, fun a b => some (ofBool (a != b)))
  | "<" => some (4, fun a b => some (ofBool (a < b)))
  | "<=" => some (4, fun a b => some (ofBool (a ≤ b)))
  | ">" => some (4, fun a b => some (ofBool (a > b)))
  | ">=" => some (4, fun a b => some (ofBool (a ≥ b)))
  | "+" => some (5, fun a b => some (a + b))
  | "-" => some (5, fun a b => some (a - b))
  | "*" => some (6, fun a b => some (a * b))
  | "/" => some (6, fun a b => if b = 0 then none else some (a.tdiv b))
  | "%" => some (6, fun a b => if b = 0 then none else some (a.tmod b))
  | _ => none

mutual

/-- A number, a name, or an expression in parentheses, and what follows. -/
def operand (look : String → Int) (fuel : Nat) (ps : List Piece) : Option (Int × List Piece) :=
  match fuel with
  | 0 => none
  | fuel + 1 =>
    match ps with
    | .number n :: rest => some (n, rest)
    | .name s :: rest => some (look s, rest)
    | .sign "-" :: rest => (operand look fuel rest).map fun (a, rest) => (-a, rest)
    | .sign "+" :: rest => operand look fuel rest
    | .sign "!" :: rest => (operand look fuel rest).map fun (a, rest) => (ofBool (a == 0), rest)
    | .sign "(" :: rest =>
      match (operand look fuel rest).bind fun (a, rest) => operators look fuel 0 a rest with
      | some (a, .sign ")" :: rest) => some (a, rest)
      | _ => none
    | _ => none
termination_by structural fuel

/-- The value of an expression whose first operand is `a`, as far as its operators bind at least so
tightly, and what follows. -/
def operators (look : String → Int) (fuel : Nat) (tight : Nat) (a : Int) (ps : List Piece) :
    Option (Int × List Piece) :=
  match fuel with
  | 0 => none
  | fuel + 1 =>
    match ps with
    | .sign s :: rest =>
      match operation? s with
      | some (level, apply) =>
        if level < tight then some (a, ps)
        else do
          let (b, rest) ← operand look fuel rest
          let (b, rest) ← operators look fuel (level + 1) b rest
          operators look fuel tight (← apply a b) rest
      | none => some (a, ps)
    | _ => some (a, ps)
termination_by structural fuel

end

/-- The value of an expression, given those of the names. -/
def value? (look : String → Int) (source : String) : Option Int :=
  let ps := pieces 0 source.toList
  let fuel := 2 * ps.length + 2
  match (operand look fuel ps).bind fun (a, rest) => operators look fuel 0 a rest with
  | some (a, []) => some a
  | _ => none

end Groundwork.Shell.Arithmetic
