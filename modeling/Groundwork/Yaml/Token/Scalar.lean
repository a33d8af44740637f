import Groundwork.Yaml.Cell
import Groundwork.Json.Parser

/-!
# Scalars

The three ways to write a text: plain, in quotes, and as a block of lines.  Breaks between lines are
folded: a single one becomes a space, and of several the first one is dropped.

Texts are gathered last character first.
-/

namespace Groundwork.Yaml

/-! ### Blanks between words -/

/-- The blanks read since the last word. -/
inductive Blanks where
  | none
  /-- Gaps on one line, last first. -/
  | gaps (text : List Char)
  /-- A first break, unless it was escaped, and more breaks, last first. -/
  | lines (first : Option Char) (more : List Char)

/-- Whether a line has ended among the blanks. -/
def Blanks.isLines : Blanks → Bool
  | .lines _ _ => true
  | _ => false

/-- Adds a gap; gaps at the beginning of a line do not count. -/
def Blanks.addGap (c : Char) : Blanks → Blanks
  | .none => .gaps [c]
  | .gaps text => .gaps (c :: text)
  | .lines first more => .lines first more

/-- Adds a break; the gaps in front of the first one do not count. -/
def Blanks.addBreak (c : Char) : Blanks → Blanks
  | .lines first more => .lines first (c :: more)
  | _ => .lines (some c) []

/-- Appends the blanks to the text gathered so far. -/
def Blanks.flush (text : List Char) : Blanks → List Char
  | .none => text
  | .gaps line => line ++ text
  | .lines (some '\n') [] => ' ' :: text
  | .lines (some '\n') more => more ++ text
  | .lines (some c) more => more ++ c :: text
  | .lines Option.none more => more ++ text

/-! ### Plain scalars -/

/-- The characters that end a plain scalar inside brackets. -/
def isFlowMark (c : Char) : Bool :=
  c == ',' || c == '[' || c == ']' || c == '\x7b' || c == '\x7d'

/-- Reads a plain scalar that may not go on left of the column `margin` outside brackets.  Gives
the text, whether a line has ended after it, and the cells that follow. -/
def readPlain (inFlow : Bool) (margin : Int) (text : List Char) (blanks : Blanks) :
    List Cell → Except String (List Char × Bool × List Cell)
  | [] => .ok (text, blanks.isLines, [])
  | c :: rest =>
    let done := .ok (text, blanks.isLines, c :: rest)
    if isGap c.char then
      if blanks.isLines && c.char == '\t' && (c.column : Int) < margin then
        .error "a plain scalar: a tab in the indentation"
      else readPlain inFlow margin text (blanks.addGap c.char) rest
    else if isBreak c.char then readPlain inFlow margin text (blanks.addBreak c.char) rest
    else if c.char = stop then done
    else
      let fresh := match blanks with
        | .none => false
        | _ => true
      if fresh && (c.char == '#' || isDocumentMark (c :: rest)
          || (!inFlow && (c.column : Int) < margin)) then done
      else if c.char = ':' && isBreakOrGap (nextChar rest) then done
      else if inFlow && isFlowMark c.char then done
      else if inFlow && c.char = ':' && (isFlowMark (nextChar rest) || nextChar rest == '?') then
        .error "a plain scalar: unexpected ':'"
      else readPlain inFlow margin (c.char :: blanks.flush text) .none rest

/-! ### Scalars in quotes -/

/-- Reads a scalar in single quotes after the opening one; two quotes stand for one. -/
def readSingle (text : List Char) (blanks : Blanks) :
    List Cell → Except String (List Char × List Cell)
  | [] => .error "a quoted scalar: unexpected end"
  | c :: rest =>
    if isGap c.char then readSingle text (blanks.addGap c.char) rest
    else if isBreak c.char then readSingle text (blanks.addBreak c.char) rest
    else if c.char = stop then .error "a quoted scalar: unexpected end"
    else if isDocumentMark (c :: rest) then .error "a quoted scalar: unexpected document mark"
    else if c.char = '\'' then
      match rest with
      | d :: rest' =>
        if d.char = '\'' then readSingle ('\'' :: blanks.flush text) .none rest'
        else .ok (blanks.flush text, d :: rest')
      | [] => .ok (blanks.flush text, [])
    else readSingle (c.char :: blanks.flush text) .none rest

/-- The character of an escape of one letter. -/
def simpleEscape? : Char → Option Char
  | '0' => some '\x00'
  | 'a' => some '\x07'
  | 'b' => some '\x08'
  | 't' => some '\t'
  | '\t' => some '\t'
  | 'n' => some '\n'
  | 'v' => some '\x0b'
  | 'f' => some '\x0c'
  | 'r' => some '\r'
  | 'e' => some '\x1b'
  | ' ' => some ' '
  | '"' => some '"'
  | '/' => some '/'
  | '\\' => some '\\'
  | 'N' => some '\u0085'
  | '_' => some '\u00a0'
  | 'L' => some '\u2028'
  | 'P' => some '\u2029'
  | _ => none

/-- The number of hexadecimal digits after the letter of an escape. -/
def escapeDigits? : Char → Option Nat
  | 'x' => some 2
  | 'u' => some 4
  | 'U' => some 8
  | _ => none

/-- Where the reader of a scalar in double quotes stands. -/
inductive Escape where
  /-- Not in an escape. -/
  | outside
  /-- After a backslash. -/
  | letter
  /-- Before so many more hexadecimal digits. -/
  | digits (left value : Nat)

/-- Reads a scalar in double quotes after the opening one. -/
def readDouble (text : List Char) (blanks : Blanks) (escape : Escape) :
    List Cell → Except String (List Char × List Cell)
  | [] => .error "a quoted scalar: unexpected end"
  | c :: rest =>
    match escape with
    | .outside =>
      if isGap c.char then readDouble text (blanks.addGap c.char) .outside rest
      else if isBreak c.char then readDouble text (blanks.addBreak c.char) .outside rest
      else if c.char = stop then .error "a quoted scalar: unexpected end"
      else if isDocumentMark (c :: rest) then .error "a quoted scalar: unexpected document mark"
      else if c.char = '"' then .ok (blanks.flush text, rest)
      else if c.char = '\\' then readDouble (blanks.flush text) .none .letter rest
      else readDouble (c.char :: blanks.flush text) .none .outside rest
    | .letter =>
      if isBreak c.char then readDouble text (.lines none []) .outside rest
      else match simpleEscape? c.char, escapeDigits? c.char with
        | some d, _ => readDouble (d :: text) .none .outside rest
        | none, some n => readDouble text .none (.digits n 0) rest
        | none, none => .error "a quoted scalar: unknown escape"
    | .digits left value =>
      match Json.hexValue? c.char with
      | none => .error "a quoted scalar: expected a hexadecimal digit"
      | some d =>
        let value := value * 16 + d
        if left > 1 then readDouble text .none (.digits (left - 1) value) rest
        else if (0xD800 ≤ value && value ≤ 0xDFFF) || value > 0x10FFFF then
          .error "a quoted scalar: no such character"
        else readDouble (Char.ofNat value :: text) .none .outside rest

/-! ### Blocks of lines -/

/-- What becomes of the breaks at the end of a block. -/
inductive Chomping where
  | strip
  | clip
  | keep
  deriving DecidableEq

/-- The signs after the mark of a block: how the end is treated, and how far the block is indented
if that is said. -/
structure BlockHeader where
  chomping : Chomping := .clip
  indent : Option Nat := none

/-- Reads the signs after the mark of a block, in either order. -/
def readHeader (cs : List Cell) : Except String (BlockHeader × List Cell) :=
  let chomping? (c : Char) : Option Chomping :=
    if c = '+' then some .keep else if c = '-' then some .strip else none
  let indent? (c : Char) : Option Nat :=
    if c.isDigit then some (c.toNat - 48) else none
  let (header, rest) : BlockHeader × List Cell := match cs with
    | c :: d :: rest =>
      match chomping? c.char, indent? c.char with
      | some chomping, _ =>
        match indent? d.char with
        | some n => (⟨chomping, some n⟩, rest)
        | none => (⟨chomping, none⟩, d :: rest)
      | none, some n =>
        match chomping? d.char with
        | some chomping => (⟨chomping, some n⟩, rest)
        | none => (⟨.clip, some n⟩, d :: rest)
      | none, none => (⟨.clip, none⟩, c :: d :: rest)
    | _ => (⟨.clip, none⟩, cs)
  if header.indent = some 0 then .error "a block scalar: an indentation of 0"
  else (skipLineRest "a block scalar" rest).map fun rest => (header, rest)

/-- What the reader of a block has gathered. -/
structure Block where
  text : List Char := []
  /-- The break at the end of the last line with text. -/
  lastBreak : Option Char := none
  /-- The breaks of the empty lines since, last first. -/
  emptyLines : List Char := []
  /-- Whether the last line with text began with a gap. -/
  indented : Bool := false

/-- Where the reader of a block stands. -/
inductive BlockPlace where
  /-- In front of the first line with text, whose column is not known; the widest margin so far. -/
  | start (widest : Nat)
  /-- In the margin of a line; the column at which the text begins. -/
  | margin (indent : Nat)
  /-- In the text of a line. -/
  | line (indent : Nat)

/-- Goes over to a line whose text begins with `c`.  Folding joins it to the line before, unless one
of the two begins with a gap. -/
def Block.startLine (b : Block) (folded : Bool) (c : Char) : Block :=
  let gap := isGap c
  let joins := folded && b.lastBreak == some '\n' && !b.indented && !gap
  let text :=
    if joins then (if b.emptyLines.isEmpty then ' ' :: b.text else b.text)
    else b.lastBreak.toList ++ b.text
  { text := b.emptyLines ++ text, lastBreak := none, emptyLines := [], indented := gap }

/-- The text of a block at its end. -/
def Block.finish (b : Block) (chomping : Chomping) : List Char :=
  match chomping with
  | .strip => b.text
  | .clip => b.lastBreak.toList ++ b.text
  | .keep => b.emptyLines ++ (b.lastBreak.toList ++ b.text)

/-- Reads the lines of a block that stands in a collection of the indentation `outer`. -/
def readBlock (folded : Bool) (outer : Int) (b : Block) (at_ : BlockPlace) :
    List Cell → Except String (Block × List Cell)
  | [] => .ok (b, [])
  | c :: rest =>
    match at_ with
    | .start widest =>
      if c.char = ' ' then readBlock folded outer b (.start widest) rest
      else if c.char = '\t' then .error "a block scalar: a tab in the indentation"
      else if isBreak c.char then
        readBlock folded outer { b with emptyLines := c.char :: b.emptyLines }
          (.start (max widest c.column)) rest
      else
        let indent := max (max widest c.column) (max (outer + 1).toNat 1)
        if c.column = indent ∧ c.char ≠ stop then
          let b := b.startLine folded c.char
          readBlock folded outer { b with text := c.char :: b.text } (.line indent) rest
        else .ok (b, c :: rest)
    | .margin indent =>
      if c.column < indent ∧ c.char = ' ' then readBlock folded outer b (.margin indent) rest
      else if c.column < indent ∧ c.char = '\t' then
        .error "a block scalar: a tab in the indentation"
      else if isBreak c.char then
        readBlock folded outer { b with emptyLines := c.char :: b.emptyLines } (.margin indent) rest
      else if c.column = indent ∧ c.char ≠ stop then
        let b := b.startLine folded c.char
        readBlock folded outer { b with text := c.char :: b.text } (.line indent) rest
      else .ok (b, c :: rest)
    | .line indent =>
      if isBreak c.char then
        readBlock folded outer { b with lastBreak := some c.char } (.margin indent) rest
      else if c.char = stop then .ok (b, c :: rest)
      else readBlock folded outer { b with text := c.char :: b.text } (.line indent) rest

/-- Reads a block scalar after its mark. -/
def readBlockScalar (folded : Bool) (outer : Int) (cs : List Cell) :
    Except String (List Char × List Cell) := do
  let (header, rest) ← readHeader cs
  let place := match header.indent with
    | some n => .margin ((max outer 0).toNat + n)
    | none => .start 0
  let (b, rest) ← readBlock folded outer {} place rest
  return (b.finish header.chomping, rest)

end Groundwork.Yaml
