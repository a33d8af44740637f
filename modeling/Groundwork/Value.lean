import Groundwork.Text.Blank
import Groundwork.Text.Decimal
import Groundwork.Text.Search

/-!
# Typed values

A setting holds a truth value, a 64-bit integer or a text.  `Value.parse` reads what a user types
for a kind, `Value.coerce` turns a value of another kind into the one that is asked for, and
`Value.text` writes a value so that it can be read again.
-/

namespace Groundwork

/-! ### Kinds -/

/-- The kind of a value, fixed when a setting is declared. -/
inductive Kind where
  | boolean
  | string
  | integer
  deriving DecidableEq, Repr, Inhabited

/-- The name of a kind in messages. -/
def Kind.name : Kind → String
  | .boolean => "boolean"
  | .string => "string"
  | .integer => "integer"

/-! ### Values -/

/-- A typed value. -/
inductive Value where
  | bool (b : Bool)
  | int (i : Int64)
  | string (s : String)
  deriving DecidableEq

namespace Value

/-- The value a kind has before anything is chosen. -/
def zero : Kind → Value
  | .boolean => .bool false
  | .string => .string ""
  | .integer => .int 0

instance : Inhabited Value := ⟨zero .boolean⟩

/-- The kind of a value. -/
def kind : Value → Kind
  | .bool _ => .boolean
  | .int _ => .integer
  | .string _ => .string

/-- The text of a value. -/
def text : Value → String
  | .bool true => "true"
  | .bool false => "false"
  | .int i => Text.int64Text i
  | .string s => s

/-- Only the empty text counts as empty. -/
def isEmpty : Value → Bool
  | .string s => s.isEmpty
  | _ => false

/-- The truth value, of a value of that kind. -/
def asBool? : Value → Option Bool
  | .bool b => some b
  | _ => none

/-- The integer, of a value of that kind. -/
def asInt? : Value → Option Int64
  | .int i => some i
  | _ => none

/-- The text, of a value of that kind. -/
def asString? : Value → Option String
  | .string s => some s
  | _ => none

/-! ### Reading -/

/-- The answers that mean yes, in small letters. -/
def yesWords : List String := ["y", "yes", "true", "1"]

/-- The answers that mean no, in small letters. -/
def noWords : List String := ["n", "no", "false", "0"]

/-- Reads a yes or no answer, in letters of either case. -/
def readBool? (word : String) : Option Bool :=
  let small := Text.lowerAscii word
  if small ∈ yesWords then some true
  else if small ∈ noWords then some false
  else none

/-- Reads what a user gives for a value of this kind, without the blanks around it. -/
def parse (kind : Kind) (raw : String) : Option Value :=
  let word := Text.trim raw
  match kind with
  | .boolean => (readBool? word).map .bool
  | .integer => (Text.readInt64? word).map .int
  | .string => some (.string word)

/-- Turns a loosely typed value into one of the kind.  Everything has a text; a text is read as a
truth value or an integer; nothing else changes kind. -/
def coerce (value : Value) (kind : Kind) : Option Value :=
  if value.kind = kind then some value
  else match kind, value with
    | .string, other => some (.string other.text)
    | .integer, .string s => (Text.readInt64? (Text.trim s)).map .int
    | .boolean, .string s => parse .boolean s
    | _, _ => none

end Value

end Groundwork
