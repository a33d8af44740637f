/-!
# JSON values

Values of the data format in which the API server talks.  An object keeps its members in order and
may hold a key twice; `get?` takes the first.  A number that is not written as an integer keeps its
digits.
-/

namespace Groundwork

/-- A JSON value. -/
inductive Json where
  | null
  | bool (b : Bool)
  /-- A number written without a fraction or an exponent. -/
  | integer (n : Int)
  /-- Any other number, as it is written. -/
  | decimal (literal : String)
  | string (s : String)
  | array (items : List Json)
  | object (members : List (String × Json))
  deriving Inhabited

namespace Json

/-- The first member of an object with this key. -/
def get? (j : Json) (key : String) : Option Json :=
  match j with
  | .object members => (members.find? fun m => m.1 = key).map Prod.snd
  | _ => none

/-- The first member of an object with this key; `null` where there is none. -/
def getD (j : Json) (key : String) : Json :=
  (j.get? key).getD .null

/-- Whether the value is `null`. -/
def isNull : Json → Bool
  | .null => true
  | _ => false

/-- The value, unless it is `null`. -/
def unlessNull (j : Json) : Option Json :=
  if j.isNull then none else some j

/-- The text of a string. -/
def asString? : Json → Option String
  | .string s => some s
  | _ => none

/-- Whether the value is this text. -/
def isText (j : Json) (s : String) : Bool :=
  j.asString? == some s

/-- The truth value of `true` or `false`. -/
def asBool? : Json → Option Bool
  | .bool b => some b
  | _ => none

/-- The number of an integer. -/
def asInt? : Json → Option Int
  | .integer n => some n
  | _ => none

/-- The items of an array. -/
def asArray? : Json → Option (List Json)
  | .array items => some items
  | _ => none

/-- The members of an object. -/
def asObject? : Json → Option (List (String × Json))
  | .object members => some members
  | _ => none

end Json

end Groundwork
