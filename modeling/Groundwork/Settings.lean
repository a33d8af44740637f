import Groundwork.SetupError

/-!
# Lists of settings

An ordered list of settings in which no two have the same name and scope, as long as it is built
by `insert`.  `merge` lets the second list win, `viewFor` keeps what one unit sees, and the look-ups
prefer a unit's private setting to a shared one of the same name.
-/

namespace Groundwork

/-- An ordered list of settings. -/
structure Settings where
  entries : List Setting := []
  deriving Inhabited

namespace Settings

instance : EmptyCollection Settings := ⟨⟨[]⟩⟩

/-- The number of settings. -/
def size (ss : Settings) : Nat :=
  ss.entries.length

/-- Whether there is no setting. -/
def isEmpty (ss : Settings) : Bool :=
  ss.entries.isEmpty

/-- The names and scope ids, in order. -/
def keys (ss : Settings) : List (String × String) :=
  ss.entries.map fun s => (s.name, s.scope.id)

/-! ### Building -/

/-- Puts a setting in the place of the one with its key, or at the end. -/
def insertEntry (s : Setting) : List Setting → List Setting
  | [] => [s]
  | t :: rest => if t.key = s.key then s :: rest else t :: insertEntry s rest

/-- The list with a setting put in: in the place of the one with its key, or at the end. -/
def insert (ss : Settings) (s : Setting) : Settings :=
  ⟨insertEntry s ss.entries⟩

/-- All of the settings put in one after the other. -/
def insertAll (ss : Settings) (added : List Setting) : Settings :=
  added.foldl insert ss

/-- The list built from these settings; of two with one key the later wins, in the earlier place. -/
def ofList (added : List Setting) : Settings :=
  insertAll ∅ added

/-- The settings of both lists; the second list wins. -/
def merge (ss other : Settings) : Settings :=
  ss.insertAll other.entries

/-- The list with the values of the shared settings taken away, so that no unit decides them. -/
def clearShared (ss : Settings) : Settings :=
  ⟨ss.entries.map fun s => if s.scope.isShared then s.reset else s⟩

/-- What a unit sees: the shared settings and its own. -/
def viewFor (ss : Settings) (unit : String) : Settings :=
  ⟨ss.entries.filter fun s => s.scope = .shared || s.scope = .unit unit⟩

/-! ### Looking up -/

/-- The setting with this name and scope. -/
def find? (ss : Settings) (name : String) (scope : Scope) : Option Setting :=
  ss.entries.find? fun s => s.name = name && s.scope = scope

/-- The setting of this name that is private to the unit.  Ids are compared, and a shared setting has
the id of a unit without one. -/
def findOwn? (ss : Settings) (name unit : String) : Option Setting :=
  ss.entries.find? fun s => s.name = name && s.scope.id = unit && !s.scope.isShared

/-- The shared setting of this name. -/
def findShared? (ss : Settings) (name : String) : Option Setting :=
  ss.entries.find? fun s => s.name = name && s.scope.isShared

/-- The setting a unit means by a name: its own one first, then the shared one.  Without a unit
only a shared one is meant. -/
def get? (ss : Settings) (name : String) (unit : Option String) : Option Setting :=
  (unit.bind (ss.findOwn? name)).or (ss.findShared? name)

/-- Changes the first setting with this name and scope. -/
def modifyEntry (name : String) (scope : Scope) (f : Setting → Setting) :
    List Setting → List Setting
  | [] => []
  | s :: rest =>
    if s.name = name ∧ s.scope = scope then f s :: rest else s :: modifyEntry name scope f rest

/-- The list with the setting of this name and scope changed. -/
def modify (ss : Settings) (name : String) (scope : Scope) (f : Setting → Setting) : Settings :=
  ⟨modifyEntry name scope f ss.entries⟩

/-- The setting a unit means by a name, or an error. -/
def require (ss : Settings) (name : String) (unit : Option String) : Except SetupError Setting :=
  match ss.get? name unit with
  | some s => .ok s
  | none => .error (.unknown name)

/-- The value of the setting a unit means by a name, read as `expected`. -/
def typed {α : Type} (ss : Settings) (name : String) (unit : Option String) (expected : Kind)
    (view : Value → Option α) : Except SetupError α :=
  match ss.require name unit with
  | .error e => .error e
  | .ok s =>
    match view s.value with
    | some a => .ok a
    | none => .error (.wrongKind s.name expected s.kind)

/-- The truth value a unit means by a name. -/
def getBool (ss : Settings) (name : String) (unit : Option String) : Except SetupError Bool :=
  ss.typed name unit .boolean Value.asBool?

/-- The text a unit means by a name. -/
def getString (ss : Settings) (name : String) (unit : Option String) : Except SetupError String :=
  ss.typed name unit .string Value.asString?

/-- The integer a unit means by a name. -/
def getInt (ss : Settings) (name : String) (unit : Option String) : Except SetupError Int64 :=
  ss.typed name unit .integer Value.asInt?

/-- A shared truth value, `false` when there is none. -/
def sharedBool (ss : Settings) (name : String) : Bool :=
  (ss.getBool name none).toOption.getD false

/-- A shared text, empty when there is none. -/
def sharedString (ss : Settings) (name : String) : String :=
  (ss.getString name none).toOption.getD ""

end Settings

end Groundwork
