import Groundwork.Text.Utf8

/-!
# Texts in addresses

Which characters an address may hold as they are, and how other texts are written in the query of
an address: a blank as a plus sign, and every byte that is no letter, digit or one of four marks as
a percent sign with two hexadecimal digits.
-/

namespace Groundwork.Text

/-! ### Encoding -/

/-- The digits of a byte in base sixteen. -/
def hexByte (b : UInt8) : List Char :=
  let digit (n : Nat) : Char := Char.ofNat (if n < 10 then 48 + n else 55 + n)
  [digit (b.toNat / 16), digit (b.toNat % 16)]

/-- Whether a byte stands for itself in a query. -/
def isFormByte (b : UInt8) : Bool :=
  let c := Char.ofNat b.toNat
  b.toNat < 128 && (c.isAlphanum || c == '*' || c == '-' || c == '.' || c == '_')

/-- A byte in a query. -/
def formByte (b : UInt8) : List Char :=
  if isFormByte b then [Char.ofNat b.toNat]
  else if b = 32 then ['+']
  else '%' :: hexByte b

/-- A text in a query. -/
def formEncode (s : String) : String :=
  String.ofList ((utf8Bytes s).flatMap formByte)

/-! ### Addresses -/

/-- Whether a character may stand in the path of an address. -/
def isPathChar (c : Char) : Bool :=
  c.toNat ≥ 0x7F
    || (c.toNat > 32 && !(c == '#' || c == '<' || c == '>' || c == '?' || c == '\x60'))

/-- Whether a character may stand in the query of an address. -/
def isQueryChar (c : Char) : Bool :=
  c.toNat ≥ 0x7F || (c.toNat > 32 && !(c == '"' || c == '#' || c == '<' || c == '>'))

/-- The longest address, in bytes. -/
def longestAddress : Nat := 65534

/-- An address without its fragment, if it is one: the path up to a question mark, then the
query. -/
def address? (s : String) : Option String :=
  let cs := s.toList.takeWhile fun c => c != '#'
  let path := cs.takeWhile fun c => c != '?'
  let query := (cs.dropWhile fun c => c != '?').drop 1
  if s.utf8ByteSize ≤ longestAddress && path.all isPathChar && query.all isQueryChar then
    some (String.ofList cs)
  else none

end Groundwork.Text
