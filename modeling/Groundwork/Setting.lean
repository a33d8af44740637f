import Groundwork.Value

/-!
# Settings

A setting is a named value that a unit asks for.  It is shared by all units or private to one.  Its
kind is that of its default.  It starts without a value and is given one at most once by the chain
of sources; `accept` refuses a value of another kind, `reset` takes the value away.
-/

namespace Groundwork

/-! ### Scopes -/

/-- Who sees a setting. -/
inductive Scope where
  /-- Given once, seen by every unit. -/
  | shared
  /-- Seen only by the unit with this id. -/
  | unit (id : String)
  deriving DecidableEq, Inhabited

namespace Scope

/-- Whether every unit sees the setting. -/
def isShared : Scope → Bool
  | .shared => true
  | .unit _ => false

/-- The unit's id, empty for a shared setting. -/
def id : Scope → String
  | .shared => ""
  | .unit id => id

/-- The scope in words. -/
def text : Scope → String
  | .shared => "shared"
  | .unit id => "private to " ++ id

end Scope

/-! ### Facts about the cluster -/

/-- What is known of the cluster when defaults are computed from it. -/
structure Facts where
  /-- The addresses under which the nodes are reached from outside. -/
  externalIps : List String := []
  /-- The version the API server reports. -/
  serverVersion : String := ""
  /-- The name of the recognised platform. -/
  platform : String := ""
  /-- Whether services of type LoadBalancer get an address. -/
  hasLoadBalancer : Bool := false
  deriving DecidableEq, Inhabited

/-- A default computed from the cluster.  It may fail, and it may have no answer. -/
abbrev DynamicDefault := Facts → Except String (Option Value)

/-! ### Settings -/

/-- Whether a setting has been given a value, and by whom. -/
inductive Choice where
  /-- No source has given a value. -/
  | pending
  /-- A source gave this value; `byUser` if it came from the user. -/
  | given (value : Value) (byUser : Bool)
  deriving DecidableEq, Inhabited

/-- A named, typed and scoped value that a unit asks for. -/
structure Setting where
  name : String
  description : String := ""
  scope : Scope := .shared
  /-- The value used when no source knows better; its kind is the kind of the setting. -/
  default : Value
  /-- A default computed from the cluster. -/
  dynamic : Option DynamicDefault := none
  choice : Choice := .pending

namespace Setting

/-- The kind a value of this setting has. -/
def kind (s : Setting) : Kind :=
  s.default.kind

/-- Whether a source has given a value. -/
def isValid (s : Setting) : Bool :=
  match s.choice with
  | .pending => false
  | .given _ _ => true

/-- Whether the value came from the user. -/
def isByUser (s : Setting) : Bool :=
  match s.choice with
  | .pending => false
  | .given _ byUser => byUser

/-- The value given, or the zero value of the kind. -/
def value (s : Setting) : Value :=
  match s.choice with
  | .pending => .zero s.kind
  | .given v _ => v

/-- The name and scope, which tell the settings of a list apart. -/
def key (s : Setting) : String × Scope :=
  (s.name, s.scope)

/-- Gives the setting a value; a value of another kind is refused by returning its kind. -/
def accept (s : Setting) (value : Value) (byUser : Bool) : Except Kind Setting :=
  if value.kind = s.kind then .ok { s with choice := .given value byUser }
  else .error value.kind

/-- Takes the value away. -/
def reset (s : Setting) : Setting :=
  { s with choice := .pending }

/-- The default computed from the cluster, if it has the right kind and is not the empty text. -/
def dynamicValue? (s : Setting) (facts : Facts) : Option Value :=
  match s.dynamic with
  | none => none
  | some compute =>
    match compute facts with
    | .ok (some v) => if v.kind = s.kind ∧ v.isEmpty = false then some v else none
    | .ok none => none
    | .error _ => none

/-- The name of the command-line flag of a setting: hyphens in place of underscores. -/
def flagName (name : String) : String :=
  Text.replaceChar '_' '-' name

end Setting

end Groundwork
