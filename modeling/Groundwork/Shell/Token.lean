/-!
# Words of the shell

A script is cut into words and operators.  A word keeps apart what is quoted and what is not, and
holds the places where parameters, values of expressions and outputs of other scripts go.
-/

namespace Groundwork.Shell

/-! ### Words -/

/-- A part of a word. -/
inductive WordPart where
  | text (c : Char) (quoted : Bool)
  /-- The value of a parameter. -/
  | parameter (name : String) (quoted : Bool)
  /-- The value of an expression. -/
  | arithmetic (source : String) (quoted : Bool)
  /-- What another script writes. -/
  | substitution (source : String) (quoted : Bool)
  /-- A text that has taken the place of another part. -/
  | value (content : String) (quoted : Bool)
  deriving DecidableEq

/-- A word as it is written. -/
abbrev Word := List WordPart

/-- The text of a word without the parts that stand for something. -/
def Word.literal (w : Word) : String :=
  String.ofList (w.filterMap fun
    | .text c _ => some c
    | _ => none)

/-- A word or an operator. -/
inductive Token where
  | word (word : Word)
  | operator (text : String)
  deriving DecidableEq

/-! ### Parts that begin with a dollar sign -/

/-- A character that begins a name. -/
def isNameStart (c : Char) : Bool := c.isAlpha || c == '_'

/-- A character of a name. -/
def isNameChar (c : Char) : Bool := c.isAlphanum || c == '_'

/-- The characters before the parenthesis that closes the one before them. -/
def enclosed : Nat → List Char → Option (List Char)
  | _, [] => none
  | depth, c :: cs =>
    if c = ')' then
      match depth with
      | 0 => some []
      | depth + 1 => (enclosed depth cs).map (c :: ·)
    else (enclosed (if c = '(' then depth + 1 else depth) cs).map (c :: ·)

/-- An expression or a script between parentheses, by the characters inside of them. -/
def ofEnclosed (quoted : Bool) (inside : List Char) : WordPart :=
  match inside with
  | '(' :: rest =>
    if rest.getLast? = some ')' then .arithmetic (String.ofList rest.dropLast) quoted
    else .substitution (String.ofList inside) quoted
  | _ => .substitution (String.ofList inside) quoted

/-- The part that characters after a dollar sign write, and how many they are. -/
def readDollar (quoted : Bool) : List Char → Option (WordPart × Nat)
  | '\x7b' :: rest =>
    let name := rest.takeWhile fun c => c != '\x7d'
    if name.length < rest.length then
      some (.parameter (String.ofList name) quoted, name.length + 2)
    else none
  | '(' :: rest =>
    (enclosed 0 rest).map fun inside => (ofEnclosed quoted inside, inside.length + 2)
  | c :: rest =>
    if isNameStart c then
      let name := rest.takeWhile isNameChar
      some (.parameter (String.ofList (c :: name)) quoted, name.length + 1)
    else if c.isDigit || "#$?@*!-".toList.contains c then
      some (.parameter (String.ofList [c]) quoted, 1)
    else none
  | [] => none

/-! ### Reading -/

/-- The quotes around a character. -/
inductive Quoting where
  | bare
  | single
  | double
  deriving DecidableEq

/-- What has been read: the tokens, last first, and the word that is being read. -/
structure Lexing where
  tokens : List Token := []
  /-- The parts of the word that is being read, last first. -/
  current : Option Word := none
  quoting : Quoting := .bare
  /-- How many characters have been taken in advance. -/
  skip : Nat := 0
  comment : Bool := false

namespace Lexing

/-- Adds to the current word. -/
def push (l : Lexing) (part : WordPart) : Lexing :=
  { l with current := some (part :: l.current.getD []) }

/-- Begins a word, if there is none. -/
def openWord (l : Lexing) : Lexing :=
  { l with current := some (l.current.getD []) }

/-- Ends the current word. -/
def cut (l : Lexing) : Lexing :=
  match l.current with
  | some w => { l with tokens := .word w.reverse :: l.tokens, current := none }
  | none => l

/-- The word that is a digit in front of a redirection. -/
def number? (l : Lexing) : Option String :=
  match l.current with
  | some [.text c false] => if c.isDigit then some (String.ofList [c]) else none
  | _ => none

/-- Whether an operator is a redirection. -/
def isRedirection (text : String) : Bool :=
  match text.toList with
  | c :: _ => c == '>' || c == '<'
  | [] => false

/-- Adds an operator; a digit right before a redirection belongs to it. -/
def operator (l : Lexing) (text : String) (skip : Nat) : Lexing :=
  match (if isRedirection text then l.number? else none) with
  | some n => { l with tokens := .operator (n ++ text) :: l.tokens, current := none, skip }
  | none =>
    let l := l.cut
    { l with tokens := .operator text :: l.tokens, skip }

/-- Takes a dollar sign. -/
def dollar (l : Lexing) (rest : List Char) (quoted : Bool) : Lexing :=
  match readDollar quoted rest with
  | some (part, n) => { l.push part with skip := n }
  | none => l.push (.text '$' quoted)

/-- Takes a script between backquotes. -/
def backquote (l : Lexing) (rest : List Char) (quoted : Bool) : Lexing :=
  let inside := rest.takeWhile fun c => c != '\x60'
  { l.push (.substitution (String.ofList inside) quoted) with skip := inside.length + 1 }

/-- The operators of two characters. -/
def longOperators : List (List Char) :=
  [['&', '&'], ['|', '|'], ['>', '>'], ['>', '&'], ['<', '&']]

/-- Takes a character outside of quotes. -/
def bare (l : Lexing) (c : Char) (rest : List Char) : Lexing :=
  if c = ' ' || c = '\t' then l.cut
  else if c = '\n' then l.operator ";" 0
  else if c = '#' && l.current.isNone then { l with comment := true }
  else if c = '\'' then { l.openWord with quoting := .single }
  else if c = '"' then { l.openWord with quoting := .double }
  else if c = '\x60' then l.backquote rest false
  else if c = '\\' then
    match rest with
    | d :: _ => if d = '\n' then { l with skip := 1 } else { l.push (.text d true) with skip := 1 }
    | [] => l.push (.text c true)
  else if c = '$' then l.dollar rest false
  else if ";|&<>()".toList.contains c then
    match rest with
    | d :: _ =>
      if longOperators.contains [c, d] then l.operator (String.ofList [c, d]) 1
      else l.operator (String.ofList [c]) 0
    | [] => l.operator (String.ofList [c]) 0
  else l.push (.text c false)

/-- Takes a character between double quotes. -/
def double (l : Lexing) (c : Char) (rest : List Char) : Lexing :=
  if c = '"' then { l with quoting := .bare }
  else if c = '$' then l.dollar rest true
  else if c = '\x60' then l.backquote rest true
  else if c = '\\' then
    match rest with
    | d :: _ =>
      if d = '\n' then { l with skip := 1 }
      else if "$\"\\\x60".toList.contains d then { l.push (.text d true) with skip := 1 }
      else l.push (.text c true)
    | [] => l.push (.text c true)
  else l.push (.text c true)

/-- Takes a character. -/
def step (l : Lexing) (c : Char) (rest : List Char) : Lexing :=
  if l.skip > 0 then { l with skip := l.skip - 1 }
  else if l.comment then
    if c = '\n' then { l.operator ";" 0 with comment := false } else l
  else match l.quoting with
    | .bare => l.bare c rest
    | .single => if c = '\'' then { l with quoting := .bare } else l.push (.text c true)
    | .double => l.double c rest

/-- Reads characters. -/
def run (l : Lexing) : List Char → Lexing
  | [] => l
  | c :: rest => (l.step c rest).run rest

end Lexing

/-- The tokens of a script, if all its quotes are closed. -/
def tokens? (script : String) : Option (List Token) :=
  let l := Lexing.run {} script.toList
  if l.quoting = .bare then some l.cut.tokens.reverse else none

end Groundwork.Shell
