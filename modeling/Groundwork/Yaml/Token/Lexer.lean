import Groundwork.Yaml.Token
import Groundwork.Yaml.Token.Scalar

/-!
# From text to tokens

Outside brackets the structure of a document is in its indentation.  The lexer keeps the columns of
the open collections and turns changes of indentation into start and end tokens.  A key is only
recognised by the colon after it, so the lexer remembers where a key may have begun and puts the
key token in when the colon comes; such a key ends on its line and within 1024 characters.
-/

namespace Groundwork.Yaml

/-! ### State -/

/-- A place where a key may have begun. -/
structure KeyStart where
  /-- Whether only a key can stand there. -/
  required : Bool
  /-- The number of tokens before it. -/
  index : Nat
  line : Nat
  column : Nat

/-- The state of the lexer. -/
structure Lexer where
  /-- The tokens so far, the last one first. -/
  tokens : List Token := []
  /-- How many they are. -/
  count : Nat := 0
  /-- The column of the innermost open collection, -1 if none is open. -/
  indent : Int := -1
  /-- The columns of the collections around it. -/
  outer : List Int := []
  /-- Where a key may have begun: outside brackets, and within each bracket, innermost first. -/
  keys : List (Option KeyStart) := [none]
  /-- Whether a key may begin here. -/
  keyAllowed : Bool := true

namespace Lexer

/-- Whether the lexer stands inside brackets. -/
def inFlow (lx : Lexer) : Bool :=
  lx.keys.length > 1

/-- Appends a token. -/
def push (lx : Lexer) (t : Token) : Lexer :=
  { lx with tokens := t :: lx.tokens, count := lx.count + 1 }

/-- Puts a token in behind the first `index` ones. -/
def insertAt (lx : Lexer) (index : Nat) (t : Token) : Lexer :=
  let after := lx.count - index
  { lx with
    tokens := lx.tokens.take after ++ t :: lx.tokens.drop after
    count := lx.count + 1 }

/-! ### Keys -/

/-- Whether a key that began at `k` cannot go on at the cell `c`. -/
def isStale (k : KeyStart) (c : Cell) : Bool :=
  k.line < c.line || k.column + 1024 < c.column

/-- Forgets the keys that cannot go on at a cell; a required one must not be forgotten. -/
def dropStaleKeys (c : Cell) : List (Option KeyStart) → Except String (List (Option KeyStart))
  | [] => .ok []
  | none :: rest => (dropStaleKeys c rest).map (none :: ·)
  | some k :: rest =>
    if isStale k c then
      if k.required then .error "a simple key: expected ':'"
      else (dropStaleKeys c rest).map (none :: ·)
    else (dropStaleKeys c rest).map (some k :: ·)

/-- Forgets the innermost key. -/
def dropKey (lx : Lexer) : Except String Lexer :=
  match lx.keys with
  | some k :: rest =>
    if k.required then .error "a simple key: expected ':'"
    else .ok { lx with keys := none :: rest }
  | _ => .ok lx

/-- Remembers that a key may begin at a cell. -/
def saveKey (lx : Lexer) (c : Cell) : Except String Lexer := do
  if lx.keyAllowed then
    let lx ← lx.dropKey
    let key : KeyStart :=
      { required := !lx.inFlow && lx.indent == (c.column : Int)
        index := lx.count
        line := c.line
        column := c.column }
    return { lx with keys := some key :: lx.keys.drop 1 }
  else return lx

/-! ### Indentation -/

/-- Closes the collections that are indented further than a column. -/
def unrollTo (column : Int) (lx : Lexer) : List Int → Lexer
  | [] => lx
  | next :: rest =>
    if lx.indent > column then
      unrollTo column { lx.push .blockEnd with indent := next, outer := rest } rest
    else lx

/-- Closes the collections that are indented further than a column, outside brackets. -/
def unroll (lx : Lexer) (column : Int) : Lexer :=
  if lx.inFlow then lx else unrollTo column lx lx.outer

/-- Opens a collection at a column, behind the first `index` tokens, unless one is open there. -/
def roll (lx : Lexer) (column index : Nat) (t : Token) : Lexer :=
  if lx.inFlow then lx
  else if lx.indent < (column : Int) then
    { lx.insertAt index t with indent := column, outer := lx.indent :: lx.outer }
  else lx

/-! ### Blanks -/

/-- The cells from the next token on, and whether a key may begin there.  A tab is passed over only
where no key may begin. -/
def skipBlanks (inFlow : Bool) (inComment keyAllowed : Bool) : List Cell → Bool × List Cell
  | [] => (keyAllowed, [])
  | c :: rest =>
    if isBreak c.char then skipBlanks inFlow false (keyAllowed || !inFlow) rest
    else if inComment && c.char != stop then skipBlanks inFlow true keyAllowed rest
    else if c.char = ' ' || (c.char = '\t' && (inFlow || !keyAllowed)) then
      skipBlanks inFlow false keyAllowed rest
    else if c.char = '#' then skipBlanks inFlow true keyAllowed rest
    else (keyAllowed, c :: rest)

/-! ### Names and tags -/

/-- Reads the name of an anchor or an alias. -/
def readName (cs : List Cell) : Except String (String × List Cell) :=
  let (name, rest) := spanWord cs
  let after := nextChar rest
  if name.isEmpty || !(isBreakOrGap after || "?:,]\x7d%@`".toList.contains after) then
    .error "an anchor: expected letters, digits, '_' or '-'"
  else .ok (String.ofList name, rest)

/-- Whether a character may stand in a tag; commas and brackets only in a whole one. -/
def isTagChar (whole : Bool) (c : Char) : Bool :=
  isWord c || ";/?:@&=+$.%!~*'()".toList.contains c || (whole && (c == ',' || c == '[' || c == ']'))

/-- Reads an escaped byte. -/
def readTagByte : List Cell → Except String (Nat × List Cell)
  | a :: b :: c :: rest =>
    match Json.hexValue? b.char, Json.hexValue? c.char with
    | some high, some low =>
      if a.char = '%' then .ok (high * 16 + low, rest) else .error "a tag: expected an escaped byte"
    | _, _ => .error "a tag: expected an escaped byte"
  | _ => .error "a tag: expected an escaped byte"

/-- Reads the bytes of an escaped character after its first one. -/
def readTagBytes (value : Nat) : Nat → List Cell → Except String (Char × List Cell)
  | 0, cs => .ok (Char.ofNat value, cs)
  | n + 1, cs => do
    let (byte, rest) ← readTagByte cs
    if byte / 64 = 2 then readTagBytes (value * 64 + byte % 64) n rest
    else throw "a tag: a bad escaped byte"

/-- Reads an escaped character. -/
def readTagEscape (cs : List Cell) : Except String (Char × List Cell) := do
  let (byte, rest) ← readTagByte cs
  if byte < 0x80 then readTagBytes byte 0 rest
  else if byte / 32 = 6 then readTagBytes (byte % 32) 1 rest
  else if byte / 16 = 14 then readTagBytes (byte % 16) 2 rest
  else if byte / 8 = 30 then readTagBytes (byte % 8) 3 rest
  else throw "a tag: a bad escaped byte"

/-- Reads the characters of a tag, at most `fuel` of them. -/
def readTagText (whole : Bool) : Nat → List Cell → Except String (List Char × List Cell)
  | 0, cs => .ok ([], cs)
  | fuel + 1, cs =>
    match cs with
    | c :: rest =>
      if c.char = '%' then do
        let (d, rest) ← readTagEscape cs
        let (text, rest) ← readTagText whole fuel rest
        return (d :: text, rest)
      else if isTagChar whole c.char then do
        let (text, rest) ← readTagText whole fuel rest
        return (c.char :: text, rest)
      else .ok ([], c :: rest)
    | [] => .ok ([], [])

/-- Reads the handle of a tag: an exclamation mark, a word, and a second mark if there is one. -/
def readHandle : List Cell → Except String (List Char × List Cell)
  | c :: rest =>
    if c.char = '!' then
      let (word, after) := spanWord rest
      match after with
      | d :: after' =>
        if d.char = '!' then .ok ('!' :: word ++ ['!'], after') else .ok ('!' :: word, after)
      | [] => .ok ('!' :: word, after)
    else .error "a tag: expected '!'"
  | [] => .error "a tag: expected '!'"

/-- Reads a tag. -/
def readTag (inFlow : Bool) (cs : List Cell) : Except String (Token × List Cell) := do
  let finish (handle suffix : List Char) (rest : List Cell) : Except String (Token × List Cell) :=
    let after := nextChar rest
    if isBreakOrGap after || (inFlow && after == ',') then
      .ok (.tag (String.ofList handle) (String.ofList suffix), rest)
    else .error "a tag: expected a blank or a line break"
  if nextChar (cs.drop 1) = '<' then
    let (text, rest) ← readTagText true cs.length (cs.drop 2)
    if text.isEmpty then throw "a tag: expected a name"
    else if nextChar rest = '>' then finish [] text (rest.drop 1)
    else throw "a tag: expected '>'"
  else
    let (handle, rest) ← readHandle cs
    let (text, rest) ← readTagText false cs.length rest
    if handle.length > 1 && handle.getLast? == some '!' then
      if text.isEmpty then throw "a tag: expected a name" else finish handle text rest
    else
      let suffix := handle.drop 1 ++ text
      if suffix.isEmpty then finish [] ['!'] rest else finish ['!'] suffix rest

/-! ### Directives -/

/-- Reads a number of a version, of at most nine digits. -/
def readVersionNumber (cs : List Cell) : Except String (Nat × List Cell) :=
  let digits := cs.takeWhile fun c => c.char.isDigit
  if digits.length > 9 then .error "a directive: a very long version number"
  else match Text.readDigits (digits.map Cell.char) with
    | some n => .ok (n, cs.drop digits.length)
    | none => .error "a directive: expected a version number"

/-- Reads a line that begins with a percent sign. -/
def readDirective (cs : List Cell) : Except String (Token × List Cell) := do
  let (name, rest) := spanWord (cs.drop 1)
  if name.isEmpty || !isBreakOrGap (nextChar rest) then throw "a directive: expected a name"
  else if name = "YAML".toList then
    let (major, rest) ← readVersionNumber (skipGaps rest)
    if nextChar rest ≠ '.' then throw "a directive: expected '.'"
    else
      let (minor, rest) ← readVersionNumber (rest.drop 1)
      let rest ← skipLineRest "a directive" rest
      return (.version major minor, rest)
  else if name = "TAG".toList then
    let (handle, rest) ← readHandle (skipGaps rest)
    if handle ≠ ['!'] ∧ (handle.length = 1 ∨ handle.getLast? ≠ some '!') then
      throw "a directive: expected '!'"
    else if !isGap (nextChar rest) then throw "a directive: expected a blank"
    else
      let (start, rest) ← readTagText true cs.length (skipGaps rest)
      if start.isEmpty then throw "a directive: expected the beginning of a tag"
      else if !isBreakOrGap (nextChar rest) then throw "a directive: expected a blank"
      else
        let rest ← skipLineRest "a directive" rest
        return (.tagShort (String.ofList handle) (String.ofList start), rest)
  else throw "a directive: unknown name"

/-! ### Single tokens -/

/-- What one step of the lexer leaves: its state and the cells still to come. -/
abbrev Step := Except String (Lexer × List Cell)

/-- The end of the text closes everything. -/
def finish (lx : Lexer) : Except String Lexer := do
  let lx ← (lx.unroll (-1)).dropKey
  return { lx with keyAllowed := false }.push .streamEnd

/-- A mark that ends everything of the document before it. -/
def documentMark (lx : Lexer) (t : Token) (rest : List Cell) : Step := do
  let lx ← (lx.unroll (-1)).dropKey
  return ({ lx with keyAllowed := false }.push t, rest)

/-- An opening bracket. -/
def openFlow (lx : Lexer) (c : Cell) (t : Token) (rest : List Cell) : Step := do
  let lx ← lx.saveKey c
  return ({ lx with keys := none :: lx.keys, keyAllowed := true }.push t, rest)

/-- A closing bracket. -/
def closeFlow (lx : Lexer) (t : Token) (rest : List Cell) : Step := do
  let lx ← lx.dropKey
  let keys := if lx.inFlow then lx.keys.drop 1 else lx.keys
  return ({ lx with keys, keyAllowed := false }.push t, rest)

/-- A comma inside brackets. -/
def flowEntry (lx : Lexer) (rest : List Cell) : Step := do
  let lx ← lx.dropKey
  return ({ lx with keyAllowed := true }.push .flowEntry, rest)

/-- A hyphen in front of an item. -/
def blockEntry (lx : Lexer) (c : Cell) (rest : List Cell) : Step := do
  if !lx.inFlow && !lx.keyAllowed then throw "an item is not allowed here"
  else
    let lx ← (lx.roll c.column lx.count .blockSequenceStart).dropKey
    return ({ lx with keyAllowed := true }.push .blockEntry, rest)

/-- A question mark in front of a key. -/
def explicitKey (lx : Lexer) (c : Cell) (rest : List Cell) : Step := do
  if !lx.inFlow && !lx.keyAllowed then throw "a key is not allowed here"
  else
    let lx ← (lx.roll c.column lx.count .blockMappingStart).dropKey
    return ({ lx with keyAllowed := !lx.inFlow }.push .key, rest)

/-- A colon in front of a value. -/
def colon (lx : Lexer) (c : Cell) (rest : List Cell) : Step :=
  match lx.keys with
  | some k :: outer =>
    let lx := { lx.insertAt k.index .key with keys := none :: outer, keyAllowed := false }
    .ok ((lx.roll k.column k.index .blockMappingStart).push .value, rest)
  | _ =>
    if !lx.inFlow && !lx.keyAllowed then .error "a value is not allowed here"
    else
      let lx := lx.roll c.column lx.count .blockMappingStart
      .ok ({ lx with keyAllowed := !lx.inFlow }.push .value, rest)

/-- A block scalar. -/
def block (lx : Lexer) (style : ScalarStyle) (rest : List Cell) : Step := do
  let lx ← lx.dropKey
  let (text, rest) ← readBlockScalar (style = .folded) lx.indent rest
  return ({ lx with keyAllowed := true }.push (.scalar (String.ofList text.reverse) style), rest)

/-- A token that may begin a key. -/
def keyed (lx : Lexer) (c : Cell) (read : Except String (Token × List Cell)) : Step := do
  let lx ← lx.saveKey c
  let (t, rest) ← read
  return ({ lx with keyAllowed := false }.push t, rest)

/-- A plain scalar; a key may begin after it if a line has ended. -/
def plain (lx : Lexer) (c : Cell) (cs : List Cell) : Step := do
  let lx ← lx.saveKey c
  let (text, newLine, rest) ← readPlain lx.inFlow (lx.indent + 1) [] .none cs
  let scalar := Token.scalar (String.ofList text.reverse) .plain
  return ({ lx with keyAllowed := newLine }.push scalar, rest)

/-- Whether a plain scalar may begin with `c` when `next` follows. -/
def startsPlain (inFlow : Bool) (c next : Char) : Bool :=
  !(isBreakOrGap c || "-?:,[]\x7b\x7d#&*!|>'\"%@`".toList.contains c)
    || (c == '-' && !isGap next)
    || (!inFlow && (c == '?' || c == ':') && !isBreakOrGap next)

/-- Reads the token that begins at `c`. -/
def token (lx : Lexer) (c : Cell) (rest : List Cell) : Step :=
  let cs := c :: rest
  let next := nextChar rest
  let text (style : ScalarStyle) (r : List Char × List Cell) : Token × List Cell :=
    (.scalar (String.ofList r.1.reverse) style, r.2)
  if c.column = 0 ∧ c.char = '%' then do
    let lx ← (lx.unroll (-1)).dropKey
    let (t, rest) ← readDirective cs
    return ({ lx with keyAllowed := false }.push t, rest)
  else if isDocumentMark cs then
    lx.documentMark (if c.char = '-' then .documentStart else .documentEnd) (cs.drop 3)
  else match c.char with
    | '[' => lx.openFlow c .flowSequenceStart rest
    | '\x7b' => lx.openFlow c .flowMappingStart rest
    | ']' => lx.closeFlow .flowSequenceEnd rest
    | '\x7d' => lx.closeFlow .flowMappingEnd rest
    | ',' => lx.flowEntry rest
    | '*' => lx.keyed c ((readName rest).map fun r => (.alias r.1, r.2))
    | '&' => lx.keyed c ((readName rest).map fun r => (.anchor r.1, r.2))
    | '!' => lx.keyed c (readTag lx.inFlow cs)
    | '\'' => lx.keyed c ((readSingle [] .none rest).map (text .singleQuoted))
    | '"' => lx.keyed c ((readDouble [] .none .outside rest).map (text .doubleQuoted))
    | first =>
      if first = '-' && isBreakOrGap next then lx.blockEntry c rest
      else if first = '?' && (lx.inFlow || isBreakOrGap next) then lx.explicitKey c rest
      else if first = ':' && (lx.inFlow || isBreakOrGap next) then lx.colon c rest
      else if first = '|' && !lx.inFlow then lx.block .literal rest
      else if first = '>' && !lx.inFlow then lx.block .folded rest
      else if startsPlain lx.inFlow first next then lx.plain c cs
      else .error "a character that cannot begin anything"

/-- Reads tokens up to the end, at most `fuel` of them. -/
def run : Nat → Lexer → List Cell → Except String (List Token)
  | 0, _, _ => .error "too many tokens"
  | fuel + 1, lx, cs => do
    let (keyAllowed, cs) := skipBlanks lx.inFlow false lx.keyAllowed cs
    match cs with
    | [] => throw "unexpected end"
    | c :: rest =>
      let keys ← dropStaleKeys c lx.keys
      let lx := { lx with keyAllowed, keys }.unroll c.column
      if c.char = stop then
        let lx ← lx.finish
        return lx.tokens.reverse
      else
        let (lx, rest) ← lx.token c rest
        run fuel lx rest

end Lexer

/-- The tokens of a text. -/
def Token.ofText (s : String) : Except String (List Token) := do
  let cs ← cells s
  -- each token takes up at least one cell
  Lexer.run (cs.length + 1) {} cs

end Groundwork.Yaml
