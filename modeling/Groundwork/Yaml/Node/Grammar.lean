import Groundwork.Text.Search
import Groundwork.Yaml.Node
import Groundwork.Yaml.Token.Lexer

/-!
# From tokens to a document

A recursive reading of the tokens.  Where a node is missing that the grammar allows to be missing,
the empty scalar stands in its place.  A text holds at most one document.
-/

namespace Groundwork.Yaml

/-- What the reader keeps: the tokens still to come, the short forms of tags, and the anchors. -/
structure Grammar where
  tokens : List Token
  /-- The beginnings of tags by their handles. -/
  shortTags : List (String × String) := []
  /-- The slots of the names that have been anchored. -/
  names : List (String × Nat) := []
  /-- How many nodes have been anchored. -/
  anchored : Nat := 0
  /-- The anchored node that each slot stands for, by its number; the newest entry counts. -/
  holders : List (Nat × Nat) := []
  /-- The anchored nodes that are complete, by their numbers. -/
  complete : List (Nat × Node) := []

namespace Grammar

/-- A reader of part of a document. -/
abbrev Reader := StateT Grammar (Except String)

/-- The next token, which stays. -/
def peek : Reader Token := do
  match (← get).tokens with
  | t :: _ => return t
  | [] => return .streamEnd

/-- Passes over the next token. -/
def skip : Reader Unit :=
  modify fun g => { g with tokens := g.tokens.drop 1 }

/-- The slot of a name. -/
def slotOf? (g : Grammar) (name : String) : Option Nat :=
  (g.names.find? fun entry => entry.1 = name).map Prod.snd

/-- Anchors the node that begins here and gives its number.  The slot is as many as there are
names, also when the name is used again. -/
def anchor (name : String) : Reader Nat := do
  let g ← get
  let slot := g.names.length
  let number := g.anchored
  set { g with
    names := (name, slot) :: g.names.filter fun entry => entry.1 ≠ name
    anchored := number + 1
    holders := (slot, number) :: g.holders }
  return number

/-- Notes that an anchored node is complete. -/
def completeNode (number : Option Nat) (node : Node) : Reader Node := do
  match number with
  | some n => modify fun g => { g with complete := (n, node) :: g.complete }
  | none => pure ()
  return node

/-- The whole of a tag from its handle and its suffix. -/
def wholeTag (handle suffix : String) : Reader String := do
  if handle.isEmpty then return suffix
  else match (← get).shortTags.find? fun entry => entry.1 = handle with
    | some (_, start) => return start ++ suffix
    | none => throw "an undefined tag handle"

/-- The anchor and the tag in front of a node, in either order. -/
def properties : Reader (Option String × Option String) := do
  match ← peek with
  | .anchor name =>
    skip
    match ← peek with
    | .tag handle suffix => skip; return (some name, some (← wholeTag handle suffix))
    | _ => return (some name, none)
  | .tag handle suffix =>
    skip
    let tag ← wholeTag handle suffix
    match ← peek with
    | .anchor name => skip; return (some name, some tag)
    | _ => return (none, some tag)
  | _ => return (none, none)

/-! ### Nodes -/

/-- Whether a node may be missing in front of a token in a block sequence. -/
def endsBlockItem (t : Token) : Bool :=
  t = .blockEntry || t = .blockEnd

/-- Whether a node may be missing in front of a token in a sequence without indentation. -/
def endsFlushItem (t : Token) : Bool :=
  t = .blockEntry || t = .key || t = .value || t = .blockEnd

/-- Whether a key or a value may be missing in front of a token in a block mapping. -/
def endsBlockPart (t : Token) : Bool :=
  t = .key || t = .value || t = .blockEnd

/-- An anchor or a tag alone stands for an empty scalar. -/
def orEmpty (number : Option Nat) (name tag : Option String) : Reader Node :=
  if name.isSome || tag.isSome then completeNode number (.scalar tag "" .plain)
  else throw "expected a node"

mutual

/-- A node.  `inBlock` allows block collections; `flush` allows a sequence whose hyphens stand in
the column of the mapping around it. -/
def node (fuel : Nat) (inBlock flush : Bool) : Reader Node :=
  match fuel with
  | 0 => throw "too deep"
  | fuel + 1 => do
    match ← peek with
    | .alias name =>
      skip
      match slotOf? (← get) name with
      | some slot => return .alias slot
      | none => throw "an unknown anchor"
    | _ =>
      let (name, tag) ← properties
      let number ← name.mapM anchor
      match ← peek with
      | .scalar text style =>
        skip
        completeNode number (.scalar (if tag = some "!" then none else tag) text style)
      | .flowSequenceStart => skip; completeNode number (.sequence tag (← flowItems fuel true))
      | .flowMappingStart => skip; completeNode number (.mapping tag (← flowEntries fuel true))
      | .blockEntry =>
        if flush then completeNode number (.sequence tag (← flushItems fuel))
        else orEmpty number name tag
      | .blockSequenceStart =>
        if inBlock then skip; completeNode number (.sequence tag (← blockItems fuel))
        else orEmpty number name tag
      | .blockMappingStart =>
        if inBlock then skip; completeNode number (.mapping tag (← blockEntries fuel))
        else orEmpty number name tag
      | _ => orEmpty number name tag
termination_by structural fuel

/-- The items of a block sequence. -/
def blockItems (fuel : Nat) : Reader (List Node) :=
  match fuel with
  | 0 => throw "too deep"
  | fuel + 1 => do
    match ← peek with
    | .blockEntry =>
      skip
      let item ← if endsBlockItem (← peek) then pure Node.empty else node fuel true false
      return item :: (← blockItems fuel)
    | .blockEnd => skip; return []
    | _ => throw "a block sequence: expected '-'"
termination_by structural fuel

/-- The items of a sequence whose hyphens stand in the column of the mapping around it. -/
def flushItems (fuel : Nat) : Reader (List Node) :=
  match fuel with
  | 0 => throw "too deep"
  | fuel + 1 => do
    match ← peek with
    | .blockEntry =>
      skip
      let item ← if endsFlushItem (← peek) then pure Node.empty else node fuel true false
      return item :: (← flushItems fuel)
    | _ => return []
termination_by structural fuel

/-- The entries of a block mapping. -/
def blockEntries (fuel : Nat) : Reader (List (Node × Node)) :=
  match fuel with
  | 0 => throw "too deep"
  | fuel + 1 => do
    match ← peek with
    | .key =>
      skip
      let k ← if endsBlockPart (← peek) then pure Node.empty else node fuel true true
      let v ← match ← peek with
        | .value =>
          skip
          if endsBlockPart (← peek) then pure Node.empty else node fuel true true
        | _ => pure Node.empty
      return (k, v) :: (← blockEntries fuel)
    | .blockEnd => skip; return []
    | _ => throw "a block mapping: expected a key"
termination_by structural fuel

/-- The items of a sequence in brackets. -/
def flowItems (fuel : Nat) (first : Bool) : Reader (List Node) :=
  match fuel with
  | 0 => throw "too deep"
  | fuel + 1 => do
    if (← peek) = .flowSequenceEnd then skip; return []
    else
      if !first then
        if (← peek) = .flowEntry then skip else throw "a flow sequence: expected ',' or ']'"
      match ← peek with
      | .flowSequenceEnd => skip; return []
      | .key =>
        skip
        let pair ← flowPair fuel
        return .mapping none [pair] :: (← flowItems fuel false)
      | _ =>
        let item ← node fuel false false
        return item :: (← flowItems fuel false)
termination_by structural fuel

/-- A single entry of a mapping as an item in brackets.  A missing key takes the token after it
away. -/
def flowPair (fuel : Nat) : Reader (Node × Node) :=
  match fuel with
  | 0 => throw "too deep"
  | fuel + 1 => do
    let t ← peek
    let k ←
      if t = .value || t = .flowEntry || t = .flowSequenceEnd then
        skip
        pure Node.empty
      else node fuel false false
    match ← peek with
    | .value =>
      skip
      let t ← peek
      if t = .flowEntry || t = .flowSequenceEnd then return (k, Node.empty)
      else return (k, ← node fuel false false)
    | _ => return (k, Node.empty)
termination_by structural fuel

/-- The entries of a mapping in braces. -/
def flowEntries (fuel : Nat) (first : Bool) : Reader (List (Node × Node)) :=
  match fuel with
  | 0 => throw "too deep"
  | fuel + 1 => do
    if (← peek) = .flowMappingEnd then skip; return []
    else
      if !first then
        if (← peek) = .flowEntry then skip else throw "a flow mapping: expected ',' or a brace"
      match ← peek with
      | .flowMappingEnd => skip; return []
      | .key =>
        skip
        let t ← peek
        let k ←
          if t = .value || t = .flowEntry || t = .flowMappingEnd then pure Node.empty
          else node fuel false false
        let v ← flowValue fuel
        return (k, v) :: (← flowEntries fuel false)
      | _ =>
        let k ← node fuel false false
        return (k, Node.empty) :: (← flowEntries fuel false)
termination_by structural fuel

/-- The value of an entry in braces. -/
def flowValue (fuel : Nat) : Reader Node :=
  match fuel with
  | 0 => throw "too deep"
  | fuel + 1 => do
    match ← peek with
    | .value =>
      skip
      let t ← peek
      if t = .flowEntry || t = .flowMappingEnd then return Node.empty else node fuel false false
    | _ => return Node.empty
termination_by structural fuel

end

/-! ### Documents -/

/-- The short forms of tags that need no directive. -/
def commonShortTags : List (String × String) :=
  [("!", "!"), ("!!", "tag:yaml.org,2002:")]

/-- Reads the directives in front of a document.  A version and a short form may be given once, and
the version has to be 1.1 or 1.2. -/
def directives : Nat → Option (Nat × Nat) → List (String × String) →
    Reader (List (String × String))
  | 0, _, shortTags => return shortTags
  | fuel + 1, version, shortTags => do
    match ← peek with
    | .version major minor =>
      if version.isSome then throw "a second version"
      else if major ≠ 1 ∨ (minor ≠ 1 ∧ minor ≠ 2) then throw "an unknown version"
      else
        skip
        directives fuel (some (major, minor)) shortTags
    | .tagShort handle start =>
      if shortTags.any fun entry => entry.1 = handle then throw "a second handle of that name"
      else
        skip
        directives fuel version (shortTags ++ [(handle, start)])
    | _ => return shortTags

/-- Passes over the ends of documents. -/
def skipDocumentEnds : Nat → Reader Unit
  | 0 => return
  | fuel + 1 => do
    if (← peek) = .documentEnd then
      skip
      skipDocumentEnds fuel

/-- Whether a token begins or ends a document, so that its content is missing. -/
def endsContent : Token → Bool
  | .version _ _ => true
  | .tagShort _ _ => true
  | .documentStart => true
  | .documentEnd => true
  | .streamEnd => true
  | _ => false

/-- The content of the only document; `none` if the text holds no document. -/
def document (fuel : Nat) : Reader (Option Node) := do
  let t ← peek
  if t = .streamEnd then return none
  else
    let explicit := endsContent t && t ≠ .documentEnd
    let shortTags ← directives fuel none []
    let missing := commonShortTags.filter fun c => !shortTags.any fun entry => entry.1 = c.1
    modify fun g => { g with shortTags := shortTags ++ missing }
    if explicit then
      if (← peek) = .documentStart then skip else throw "expected the start of a document"
    let root ←
      if explicit && endsContent (← peek) then pure Node.empty else node fuel true false
    skipDocumentEnds fuel
    if (← peek) = .streamEnd then return some root
    else throw "expected the end of the only document"

end Grammar

/-- The document that the tokens make up. -/
def Document.ofTokens (tokens : List Token) : Except String Document := do
  let (root, g) ← (Grammar.document (4 * tokens.length + 8)).run { tokens }
  let slots := g.holders.filterMap fun (slot, number) =>
    (g.complete.find? fun entry => entry.1 = number).map fun entry => (slot, entry.2)
  return { root, slots }

/-- The document that a text holds. -/
def Document.ofText (s : String) : Except String Document := do
  Document.ofTokens (← Token.ofText s)

end Groundwork.Yaml
