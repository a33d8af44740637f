import Groundwork.IoFault
import Groundwork.Setting

/-!
# Errors of the setup

What can go wrong before the cluster is touched: with a setting, with the answers of the user, or
with the catalog.  `message` gives the words.
-/

namespace Groundwork

/-! ### Faults of a catalog -/

/-- The rules a catalog can break. -/
inductive CatalogFault where
  | zeroMultiplier
  | emptyUnitId
  | duplicateUnit (id : String)
  | missingManifest (unit : String)
  | missingChart (unit : String)
  | defaultMismatch (unit : String) (default : Value) (setting : String) (kind : Kind)
  | kindConflict (setting : String) (kind : Kind) (unit : String) (otherKind : Kind)
      (otherUnit : String)
  | skipNotBoolean (unit setting : String) (kind : Kind)
  | other (message : String)
  deriving DecidableEq

/-- The words for a broken rule. -/
def CatalogFault.message : CatalogFault → String
  | .zeroMultiplier => "timeout multiplier must be at least 1"
  | .emptyUnitId => "unit with empty id"
  | .duplicateUnit id => "duplicate unit id '" ++ id ++ "'"
  | .missingManifest unit => "manifest unit '" ++ unit ++ "' has no manifest path"
  | .missingChart unit => "unit '" ++ unit ++ "' has no chart"
  | .defaultMismatch unit default setting kind =>
    "unit '" ++ unit ++ "': default '" ++ default.text ++ "' of option '" ++ setting
      ++ "' is not a " ++ kind.name
  | .kindConflict setting kind unit otherKind otherUnit =>
    "shared option '" ++ setting ++ "' is a " ++ kind.name ++ " in unit '" ++ unit ++ "' but a "
      ++ otherKind.name ++ " in unit '" ++ otherUnit ++ "'"
  | .skipNotBoolean unit setting kind =>
    "unit '" ++ unit ++ "': skip option '" ++ setting ++ "' is a " ++ kind.name
      ++ ", not a boolean"
  | .other message => message

/-! ### Errors -/

/-- What can go wrong before the cluster is touched. -/
inductive SetupError where
  /-- A setting has no value at the end. -/
  | missing (name : String) (scope : Scope)
  /-- A setting is looked up that does not exist. -/
  | unknown (name : String)
  /-- A setting holds a value of another kind than asked for. -/
  | wrongKind (name : String) (expected actual : Kind)
  /-- A text given for a setting does not read as its kind. -/
  | invalidValue (name value : String) (kind : Kind)
  /-- The dialogue about a setting broke off. -/
  | input (name : String) (fault : IoFault)
  /-- The catalog breaks a rule. -/
  | catalog (fault : CatalogFault)
  /-- The catalog's text cannot be read. -/
  | unreadable (reason : String)
  /-- A file or stream failed. -/
  | io (fault : IoFault)
  deriving DecidableEq

/-- The words for an error. -/
def SetupError.message : SetupError → String
  | .missing name scope => "option '" ++ name ++ "' (" ++ scope.text ++ ") has no value"
  | .unknown name => "option '" ++ name ++ "' not set"
  | .wrongKind name expected actual =>
    "option '" ++ name ++ "' holds a " ++ actual.name ++ " value, expected " ++ expected.name
  | .invalidValue name value kind =>
    "invalid " ++ kind.name ++ " value '" ++ value ++ "' for option '" ++ name ++ "'"
  | .input name fault => "failed reading input for option '" ++ name ++ "': " ++ fault.message
  | .catalog fault => "Invalid platform catalog: " ++ fault.message
  | .unreadable reason => "Failed to parse platform catalog: " ++ reason
  | .io fault => "IO error: " ++ fault.message

end Groundwork
