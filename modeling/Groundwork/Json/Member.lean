import Groundwork.Json

/-!
# Members with a usual value

Reading the members of an object where a missing member, `null` and a value of another sort all mean
the usual thing: an empty text, `false`, zero, nothing in a list.
-/

namespace Groundwork.Json

/-- A text that may be missing. -/
def text? (j : Json) (key : String) : Option String :=
  (j.getD key).asString?

/-- A text, usually empty. -/
def textAt (j : Json) (key : String) : String :=
  (j.text? key).getD ""

/-- A truth value, usually `false`. -/
def flagAt (j : Json) (key : String) : Bool :=
  ((j.getD key).asBool?).getD false

/-- An integer, usually 0. -/
def intAt (j : Json) (key : String) : Int :=
  ((j.getD key).asInt?).getD 0

/-- A natural number, usually 0. -/
def natAt (j : Json) (key : String) : Nat :=
  (j.intAt key).toNat

/-- The items of a list, usually none. -/
def itemsAt (j : Json) (key : String) : List Json :=
  ((j.getD key).asArray?).getD []

/-- The texts in a list, usually none. -/
def textsAt (j : Json) (key : String) : List String :=
  (j.itemsAt key).filterMap asString?

/-- The texts of an object by their keys, usually none. -/
def textTableAt (j : Json) (key : String) : List (String × String) :=
  (((j.getD key).asObject?).getD []).filterMap fun m => m.2.asString?.map fun s => (m.1, s)

end Groundwork.Json
