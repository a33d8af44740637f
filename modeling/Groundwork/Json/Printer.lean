import Groundwork.Json
import Groundwork.Text.Decimal
import Groundwork.Text.Quoted

/-!
# Writing JSON

The text of a value without blanks.  In strings the quote, the backslash and the controls are
escaped and nothing else.
-/

namespace Groundwork.Json

/-- Two hexadecimal digits of a number below 256. -/
def hexPair (n : Nat) : List Char :=
  [Text.hexDigits.hexDigit (n / 16), Text.hexDigits.hexDigit (n % 16)]

/-- How a character is written in a string. -/
def escapeChar (c : Char) : List Char :=
  if c = '"' then ['\\', '"']
  else if c = '\\' then ['\\', '\\']
  else if c = '\n' then ['\\', 'n']
  else if c = '\r' then ['\\', 'r']
  else if c = '\t' then ['\\', 't']
  else if c.toNat = 8 then ['\\', 'b']
  else if c.toNat = 12 then ['\\', 'f']
  else if c.toNat < 32 then ['\\', 'u', '0', '0'] ++ hexPair c.toNat
  else [c]

/-- A string with its quotes. -/
def stringText (s : String) : String :=
  String.ofList ('"' :: s.toList.flatMap escapeChar ++ ['"'])

mutual

/-- The text of a value. -/
def text : Json → String
  | .null => "null"
  | .bool b => if b then "true" else "false"
  | .integer n => Text.signedDecimal n
  | .decimal literal => literal
  | .string s => stringText s
  | .array items => "[" ++ itemsText items ++ "]"
  | .object members => "\x7b" ++ membersText members ++ "\x7d"

/-- The texts of the items of an array. -/
def itemsText : List Json → String
  | [] => ""
  | [j] => j.text
  | j :: rest => j.text ++ "," ++ itemsText rest

/-- The texts of the members of an object. -/
def membersText : List (String × Json) → String
  | [] => ""
  | [(key, j)] => stringText key ++ ":" ++ j.text
  | (key, j) :: rest => stringText key ++ ":" ++ j.text ++ "," ++ membersText rest

end

end Groundwork.Json
