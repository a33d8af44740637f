import Groundwork.Shell.Token

/-!
# The language of the shell

A part of the language of the standard shell: commands with redirections, pipes, lists of pipes,
and the commands made of other commands.  `parse?` reads a script.
-/

namespace Groundwork.Shell

/-! ### Scripts -/

/-- Where something goes to or comes from. -/
inductive Redirection where
  /-- The output or the errors go to a file. -/
  | toFile (ofErrors append : Bool) (target : Word)
  /-- The output or the errors go where the other ones go, or nowhere. -/
  | toStream (ofErrors : Bool) (target : Word)
  /-- The input comes from a file. -/
  | fromFile (source : Word)
  /-- There is no input. -/
  | noInput
  deriving DecidableEq

/-- When a pipe of a list is run. -/
inductive Link where
  | always
  | afterSuccess
  | afterFailure
  deriving DecidableEq

/-- A command; a list of pipes, each with the condition under which it is run, is a script. -/
inductive Command where
  | simple (words : List Word) (redirections : List Redirection)
  | group (body : List (Link × List Command))
  /-- What the body changes in the shell is forgotten. -/
  | apart (body : List (Link × List Command))
  | negated (pipe : List Command)
  | choice (condition body otherwise : List (Link × List Command))
  /-- The body is run as long as the condition does not have this status. -/
  | loop (untilSuccess : Bool) (condition body : List (Link × List Command))
  | each (name : String) (words : List Word) (body : List (Link × List Command))
  | redirected (command : Command) (redirections : List Redirection)

/-- A list of pipes, each with the condition under which it is run. -/
abbrev ShellScript := List (Link × List Command)

/-! ### Reading -/

/-- The redirection of an operator and its word. -/
def redirection? (operator : String) (word : Word) : Option Redirection :=
  let (ofErrors, sign) := match operator.toList with
    | '0' :: rest => (false, rest)
    | '1' :: rest => (false, rest)
    | '2' :: rest => (true, rest)
    | cs => (false, cs)
  match sign with
  | ['>'] => some (.toFile ofErrors false word)
  | ['>', '>'] => some (.toFile ofErrors true word)
  | ['>', '&'] => some (.toStream ofErrors word)
  | ['<'] => some (.fromFile word)
  | ['<', '&'] => if word.literal = "-" then some .noInput else none
  | _ => none

/-- The character that a part of a word is, if it is one without quotes. -/
def bareChar? : WordPart → Option Char
  | .text c false => some c
  | _ => none

/-- The word at the front that is written without quotes. -/
def keyword? : List Token → Option String
  | .word w :: _ =>
    (w.mapM bareChar?).map String.ofList
  | _ => none

/-- The tokens without the breaks in front. -/
def skipBreaks : List Token → List Token
  | .operator o :: rest => if o = ";" then skipBreaks rest else .operator o :: rest
  | ts => ts

/-- Whether a script ends here: at a parenthesis or at one of some words. -/
def isEnd (stops : List String) (ts : List Token) : Bool :=
  match ts with
  | [] => true
  | .operator o :: _ => o == ")"
  | _ => (keyword? ts).any stops.contains

/-- The link that stands at the front, and what follows it. -/
def link? : List Token → Option (Link × List Token)
  | .operator o :: rest =>
    if o = ";" || o = "&" then some (.always, rest)
    else if o = "&&" then some (.afterSuccess, rest)
    else if o = "||" then some (.afterFailure, rest)
    else none
  | _ => none

/-- What follows a word that has to come next. -/
def expect (word : String) (ts : List Token) : Option (List Token) :=
  if keyword? ts = some word then some ts.tail else none

/-- Reads the words and redirections of a command behind those that have been read, last first. -/
def readSimple (words : List Word) (redirections : List Redirection) :
    List Token → Option (Command × List Token)
  | .word w :: rest => readSimple (w :: words) redirections rest
  | .operator o :: rest =>
    match rest with
    | .word w :: after =>
      match redirection? o w with
      | some r => readSimple words (r :: redirections) after
      | none => finished (.operator o :: rest)
    | _ => finished (.operator o :: rest)
  | [] => finished []
where
  /-- The command that has been read. -/
  finished (rest : List Token) : Option (Command × List Token) :=
    if words.isEmpty && redirections.isEmpty then none
    else some (.simple words.reverse redirections.reverse, rest)

/-- Reads the redirections of a command made of others. -/
def readRedirections (c : Command) (ts : List Token) : Command × List Token :=
  match readSimple [] [] ts with
  | some (.simple [] redirections, rest) => (.redirected c redirections, rest)
  | _ => (c, ts)

/-- Reads words up to a break. -/
def readItems : List Token → List Word × List Token
  | .word w :: rest =>
    let (words, rest) := readItems rest
    (w :: words, rest)
  | ts => ([], ts)

mutual

/-- A script up to its end, and what follows; `link` is the condition of its first pipe. -/
def readScript (fuel : Nat) (stops : List String) (link : Link) (ts : List Token) :
    Option (ShellScript × List Token) :=
  match fuel with
  | 0 => none
  | fuel + 1 =>
    let ts := skipBreaks ts
    if isEnd stops ts then some ([], ts)
    else match readPipe fuel ts with
      | none => none
      | some (pipe, rest) =>
        match link? rest with
        | some (next, rest) =>
          (readScript fuel stops next rest).map fun (more, rest) => ((link, pipe) :: more, rest)
        | none => some ([(link, pipe)], rest)
termination_by structural fuel

/-- A pipe, and what follows. -/
def readPipe (fuel : Nat) (ts : List Token) : Option (List Command × List Token) :=
  match fuel with
  | 0 => none
  | fuel + 1 =>
    if keyword? ts = some "!" then
      (readPipe fuel ts.tail).map fun (pipe, rest) => ([.negated pipe], rest)
    else match readCommand fuel ts with
      | some (c, .operator o :: rest) =>
        if o = "|" then (readPipe fuel (skipBreaks rest)).map fun (more, rest) => (c :: more, rest)
        else some ([c], .operator o :: rest)
      | some (c, rest) => some ([c], rest)
      | none => none
termination_by structural fuel

/-- A command, and what follows. -/
def readCommand (fuel : Nat) (ts : List Token) : Option (Command × List Token) :=
  match fuel with
  | 0 => none
  | fuel + 1 =>
    match ts with
    | .operator "(" :: rest =>
      match readScript fuel [] .always rest with
      | some (body, .operator ")" :: rest) => some (readRedirections (.apart body) rest)
      | _ => none
    | _ =>
      match keyword? ts with
      | some "\x7b" => do
        let (body, rest) ← readScript fuel ["\x7d"] .always ts.tail
        return readRedirections (.group body) (← expect "\x7d" rest)
      | some "if" => do
        let (c, rest) ← readChoice fuel ts.tail
        return readRedirections c rest
      | some "while" => do
        let (condition, rest) ← readScript fuel ["do"] .always ts.tail
        let (body, rest) ← readBody fuel rest
        return readRedirections (.loop false condition body) rest
      | some "until" => do
        let (condition, rest) ← readScript fuel ["do"] .always ts.tail
        let (body, rest) ← readBody fuel rest
        return readRedirections (.loop true condition body) rest
      | some "for" => do
        let name ← keyword? ts.tail
        let (words, rest) := match expect "in" ts.tail.tail with
          | some rest => readItems rest
          | none => ([[.parameter "@" true]], ts.tail.tail)
        let (body, rest) ← readBody fuel (skipBreaks rest)
        return readRedirections (.each name words body) rest
      | _ => readSimple [] [] ts
termination_by structural fuel

/-- A choice behind its first word, and what follows. -/
def readChoice (fuel : Nat) (ts : List Token) : Option (Command × List Token) :=
  match fuel with
  | 0 => none
  | fuel + 1 => do
    let (condition, rest) ← readScript fuel ["then"] .always ts
    let (body, rest) ← readScript fuel ["elif", "else", "fi"] .always (← expect "then" rest)
    match keyword? rest with
    | some "fi" => return (.choice condition body [], rest.tail)
    | some "else" =>
      let (otherwise, rest) ← readScript fuel ["fi"] .always rest.tail
      return (.choice condition body otherwise, ← expect "fi" rest)
    | some "elif" =>
      let (other, rest) ← readChoice fuel rest.tail
      return (.choice condition body [(.always, [other])], rest)
    | _ => none
termination_by structural fuel

/-- The body of a loop, and what follows. -/
def readBody (fuel : Nat) (ts : List Token) : Option (ShellScript × List Token) :=
  match fuel with
  | 0 => none
  | fuel + 1 => do
    let (body, rest) ← readScript fuel ["done"] .always (← expect "do" ts)
    return (body, ← expect "done" rest)
termination_by structural fuel

end

/-- The script that a text writes, if it is within the language. -/
def parse? (script : String) : Option ShellScript := do
  let ts ← tokens? script
  match readScript (4 * ts.length + 4) [] .always ts with
  | some (body, []) => return body
  | _ => none

end Groundwork.Shell
