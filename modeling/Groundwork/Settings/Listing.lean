import Groundwork.Settings
import Groundwork.Text.Quoted

/-!
# Settings on paper

`listing` gives one aligned line for each setting, and `listing?` only if the column of the names can
be laid out; `Setting.record` spells out every part of a setting on one line.
-/

namespace Groundwork

/-! ### Aligned lines -/

namespace Settings

/-- The width of the name column: the size of the longest name in bytes. -/
def nameWidth (ss : Settings) : Nat :=
  (ss.entries.map fun s => s.name.utf8ByteSize).foldl max 0

/-- A text with blanks added up to a number of characters. -/
def padTo (width : Nat) (s : String) : String :=
  s ++ Text.replicate (width - s.length) ' '

/-- The line of one setting: name, value, who sees it, and where the value came from. -/
def listingLine (width : Nat) (s : Setting) : String :=
  let scope := match s.scope with
    | .shared => "shared"
    | .unit id => id
  let origin := if s.isByUser then "user" else "default"
  padTo width s.name ++ "  " ++ s.value.text ++ "  (" ++ scope ++ ", " ++ origin ++ ")"

/-- One line for each setting, with the values under each other. -/
def listing (ss : Settings) : List String :=
  ss.entries.map (listingLine ss.nameWidth)

/-- The widest column that lines can be laid out with. -/
def widestColumn : Nat := 65535

/-- The listing, unless a name needs a wider column than lines can have. -/
def listing? (ss : Settings) : Option (List String) :=
  if ss.nameWidth ≤ widestColumn then some ss.listing else none

end Settings

/-! ### Records -/

/-- A truth value in a record. -/
def boolRecord (b : Bool) : String :=
  if b then "true" else "false"

/-- A kind in a record. -/
def Kind.record : Kind → String
  | .boolean => "Bool"
  | .string => "String"
  | .integer => "Int"

/-- A value in a record. -/
def Value.record : Value → String
  | .bool b => "Bool(" ++ boolRecord b ++ ")"
  | .int i => "Int(" ++ Text.int64Text i ++ ")"
  | .string s => "String(" ++ Text.quoted s ++ ")"

/-- A scope in a record. -/
def Scope.record : Scope → String
  | .shared => "Shared"
  | .unit id => "Unit(" ++ Text.quoted id ++ ")"

/-- Every part of a setting but its description, on one line. -/
def Setting.record (s : Setting) : String :=
  "InstallationOption \x7b name: " ++ Text.quoted s.name ++ ", scope: " ++ s.scope.record
    ++ ", kind: " ++ s.kind.record ++ ", value: " ++ s.value.record ++ ", default: "
    ++ s.default.record ++ ", dynamic_default: " ++ boolRecord s.dynamic.isSome ++ ", valid: "
    ++ boolRecord s.isValid ++ ", user_specified: " ++ boolRecord s.isByUser ++ " \x7d"

end Groundwork
