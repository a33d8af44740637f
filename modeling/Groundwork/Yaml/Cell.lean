/-!
# Characters with their places

The text of a document as a list of cells, each a character with its line and column.  A line break
of any spelling is one cell, and the list ends with the cell `stop`.  Carrying the places in the
list lets every reader be a recursion on it.
-/

namespace Groundwork.Yaml

/-! ### Classes of characters -/

/-- The character of the last cell, which stands in no document. -/
def stop : Char := '\x00'

/-- The line and paragraph separators, which are breaks but stay what they are. -/
def isSeparator (c : Char) : Bool :=
  c == '\u2028' || c == '\u2029'

/-- Whether a cell ends a line. -/
def isBreak (c : Char) : Bool :=
  c == '\n' || isSeparator c

/-- A space or a tab. -/
def isGap (c : Char) : Bool :=
  c == ' ' || c == '\t'

/-- A gap, a break or the end. -/
def isBreakOrGap (c : Char) : Bool :=
  isGap c || isBreak c || c == stop

/-- A break or the end. -/
def isLineEnd (c : Char) : Bool :=
  isBreak c || c == stop

/-- The characters of names: letters, digits, the underscore and the hyphen. -/
def isWord (c : Char) : Bool :=
  c.isAlphanum || c == '_' || c == '-'

/-- The characters that may stand in a document. -/
def isAllowed (c : Char) : Bool :=
  let n := c.toNat
  n == 9 || n == 10 || n == 13 || (0x20 ≤ n && n ≤ 0x7E) || n == 0x85 || (0xA0 ≤ n && n ≤ 0xD7FF)
    || (0xE000 ≤ n && n ≤ 0xFFFD) || (0x10000 ≤ n && n ≤ 0x10FFFF)

/-! ### Cells -/

/-- A character with its place. -/
structure Cell where
  char : Char
  line : Nat
  column : Nat
  deriving Inhabited

/-- Gives the characters their places, beginning at one place. -/
def place (line column : Nat) : List Char → List Cell
  | [] => [⟨stop, line, column⟩]
  | '\r' :: '\n' :: rest => ⟨'\n', line, column⟩ :: place (line + 1) 0 rest
  | c :: rest =>
    if c = '\r' ∨ c = '\n' ∨ c = '\u0085' then ⟨'\n', line, column⟩ :: place (line + 1) 0 rest
    else if isSeparator c then ⟨c, line, column⟩ :: place (line + 1) 0 rest
    else ⟨c, line, column⟩ :: place line (column + 1) rest

/-- The cells of a text.  A byte order mark in front is left out; the line goes on after it. -/
def cells (s : String) : Except String (List Cell) :=
  if s.toList.all isAllowed then
    match s.toList with
    | '\uFEFF' :: rest => .ok (place 0 1 rest)
    | cs => .ok (place 0 0 cs)
  else .error "control characters are not allowed"

/-- Whether the cells begin with a line that starts or ends a document. -/
def isDocumentMark : List Cell → Bool
  | a :: b :: c :: d :: _ =>
    a.column == 0 && a.char == b.char && b.char == c.char && (a.char == '-' || a.char == '.')
      && isBreakOrGap d.char
  | _ => false

/-- The character after the first one. -/
def nextChar : List Cell → Char
  | c :: _ => c.char
  | [] => stop

/-- The cells after the gaps in front. -/
def skipGaps : List Cell → List Cell
  | [] => []
  | c :: rest => if isGap c.char then skipGaps rest else c :: rest

/-- The cells from the end of the line on. -/
def skipToLineEnd : List Cell → List Cell
  | [] => []
  | c :: rest => if isLineEnd c.char then c :: rest else skipToLineEnd rest

/-- What is left of a line that may hold only a comment; the break is passed over. -/
def skipLineRest (what : String) (cs : List Cell) : Except String (List Cell) :=
  let cs := skipGaps cs
  let cs := if nextChar cs = '#' then skipToLineEnd cs else cs
  match cs with
  | c :: rest =>
    if isBreak c.char then .ok rest
    else if c.char = stop then .ok (c :: rest)
    else .error (what ++ ": expected a comment or a line break")
  | [] => .ok []

/-- The word characters in front and the cells after them. -/
def spanWord : List Cell → List Char × List Cell
  | [] => ([], [])
  | c :: rest =>
    if isWord c.char then
      let (word, after) := spanWord rest
      (c.char :: word, after)
    else ([], c :: rest)

end Groundwork.Yaml
