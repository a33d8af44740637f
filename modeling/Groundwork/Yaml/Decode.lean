import Groundwork.Table
import Groundwork.Yaml.Node
import Groundwork.Yaml.Plain

/-!
# Reading values from a document

Readers that turn a node into a value.  An alias is followed where a value is wanted, up to a
hundred times as often as the document has nodes, and left alone where the value is not wanted.
-/

namespace Groundwork.Yaml

/-- A reader of values: it knows the document, counts the aliases it has followed, and may fail. -/
abbrev Decode (α : Type) : Type := ReaderT Document (StateT Nat (Except String)) α

namespace Decode

/-- How many aliases may be followed in a document. -/
def aliasLimit (d : Document) : Nat :=
  100 * match d.root with
    | some root => root.weight
    | none => 1

/-- The node itself, or the one that an alias stands for. -/
def follow (n : Node) : Decode Node := do
  match n with
  | .alias slot =>
    let d ← read
    let followed ← get
    set (followed + 1)
    if followed + 1 > aliasLimit d then throw "too many aliases"
    else match d.slot? slot with
      | some target => return target
      | none => throw "an alias of nothing"
  | _ => return n

/-! ### Scalars -/

/-- The tag of a truth value, an integer, a number or nothing. -/
def coreTag (name : String) : String := "tag:yaml.org,2002:" ++ name

/-- The name of a tag that is not one of the common ones. -/
def ownTag? (tag : Option String) : Option String :=
  tag.bind fun t => Text.after? t "!"

/-- The text of any scalar, whatever it may mean. -/
def text (n : Node) : Decode String := do
  match ← follow n with
  | .scalar _ s _ => return s
  | _ => throw "expected a text"

/-- Whether a scalar without quotes is meant, or a literal block with the tag of its kind. -/
def isLiteralOf (tag : Option String) (style : ScalarStyle) (name : String) : Bool :=
  style = .plain || (style = .literal && tag = some (coreTag name))

/-- A truth value. -/
def bool (n : Node) : Decode Bool := do
  match ← follow n with
  | .scalar tag s style =>
    match Plain.bool? s with
    | some b => if isLiteralOf tag style "bool" then return b else throw "expected true or false"
    | none => throw "expected true or false"
  | _ => throw "expected true or false"

/-- A natural number up to a largest one. -/
def natUpTo (largest : Nat) (n : Node) : Decode Nat := do
  match ← follow n with
  | .scalar tag s style =>
    match Plain.natUpTo? largest s with
    | some k => if isLiteralOf tag style "int" then return k else throw "expected a number"
    | none => throw "expected a number"
  | _ => throw "expected a number"

/-- A value that may be missing.  Nothing, written out or not, means that it is. -/
def optional {α : Type} (value : Node → Decode α) (n : Node) : Decode (Option α) := do
  let n ← follow n
  match n with
  | .scalar tag s .plain =>
    if tag = some (coreTag "null") then
      if Plain.isNull s then return none else throw "expected nothing"
    else if tag.isNone && (s.isEmpty || Plain.isNull s) then return none
    else return some (← value n)
  | _ => return some (← value n)

/-- One of several names: a text, or a tag on nothing. -/
def choice {α : Type} (names : List (String × α)) (n : Node) : Decode α := do
  let pick (name : String) : Decode α := match names.find? fun entry => entry.1 = name with
    | some (_, a) => return a
    | none => throw "an unknown name"
  match ← follow n with
  | .scalar tag s style =>
    match ownTag? tag with
    | some name =>
      if style = .plain && (s.isEmpty || Plain.isNull s) then pick name
      else throw "expected nothing after the tag"
    | none => pick s
  | _ => throw "expected a name"

/-! ### Collections -/

/-- Whether nothing is written, which counts as an empty collection. -/
def isBlankScalar : Node → Bool
  | .scalar _ "" .plain => true
  | _ => false

/-- A list. -/
def list {α : Type} (item : Node → Decode α) (n : Node) : Decode (List α) := do
  let n ← follow n
  match n with
  | .sequence _ items => items.mapM item
  | _ => if isBlankScalar n then return [] else throw "expected a list"

/-- The entries of a mapping. -/
def entries (n : Node) : Decode (List (Node × Node)) := do
  let n ← follow n
  match n with
  | .mapping _ entries => return entries
  | _ => if isBlankScalar n then return [] else throw "expected a mapping"

/-- Texts by texts, in the order of their first keys; the last value of a key counts. -/
def textMap (n : Node) : Decode (Table String String) := do
  (← entries n).foldlM (fun pairs entry => do
    let key ← text entry.1
    let value ← text entry.2
    return Table.put key value pairs) []

/-- The fields of a mapping: the values by their names. -/
abbrev Fields := List (String × Node)

/-- The known fields of a mapping.  Unknown ones are passed over; a known one may not come twice. -/
def fields (known : List String) (n : Node) : Decode Fields := do
  (← entries n).foldlM (fun found entry => do
    let key ← text entry.1
    if !known.contains key then return found
    else if found.any fun f => f.1 = key then throw "a repeated field"
    else return found ++ [(key, entry.2)]) []

/-- The value of a field, or another one if the field is missing. -/
def Fields.getD {α : Type} (fs : Fields) (name : String) (value : Node → Decode α) (fallback : α) :
    Decode α :=
  match fs.find? fun f => f.1 = name with
  | some (_, n) => value n
  | none => return fallback

/-- The value of a field that has to be there. -/
def Fields.get {α : Type} (fs : Fields) (name : String) (value : Node → Decode α) : Decode α :=
  match fs.find? fun f => f.1 = name with
  | some (_, n) => value n
  | none => throw ("a missing field: " ++ name)

end Decode

/-- Reads a value from the root of a document; no document counts as nothing written. -/
def Document.decode {α : Type} (d : Document) (value : Node → Decode α) : Except String α := do
  let (a, _) ← ((value (d.root.getD .empty)).run d).run 0
  return a

end Groundwork.Yaml
