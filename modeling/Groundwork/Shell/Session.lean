import Groundwork.Command.Process
import Groundwork.Shell.Arithmetic
import Groundwork.Shell.Syntax
import Groundwork.Shell.Tool
import Groundwork.Table

/-!
# Shells at work

Runs scripts of small tools without starting any process.  A session keeps what a shell knows, the
input that is left, and everything that has been written, in the order in which it was written.
-/

namespace Groundwork.Shell

/-- Where something is written. -/
inductive Stream where
  | output
  | errors
  deriving DecidableEq

/-- What takes a shell out of a loop. -/
inductive Jump where
  | outOfLoop
  | toNextRound
  deriving DecidableEq

/-- A shell at work. -/
structure Session where
  place : Workplace := {}
  /-- The name of the script and the texts it is given. -/
  parameters : List String := ["sh"]
  bindings : Table String String := []
  input : List UInt8 := []
  /-- What has been written, last first. -/
  log : List (Stream × List UInt8) := []
  status : UInt8 := 0
  /-- How the shell has ended, if it has. -/
  ended : Option ProcessEnd := none
  jump : Option Jump := none

namespace Session

/-- Writes bytes. -/
def write (s : Session) (stream : Stream) (bytes : List UInt8) : Session :=
  if bytes.isEmpty then s else { s with log := (stream, bytes) :: s.log }

/-- What has been written to a stream. -/
def written (s : Session) (stream : Stream) : List UInt8 :=
  (s.log.reverse.filterMap fun e => if e.1 = stream then some e.2 else none).flatten

/-- Whether the rest of a list of commands is left out. -/
def isStopped (s : Session) : Bool :=
  s.ended.isSome || s.jump.isSome

/-- The message of the shell itself. -/
def complain (s : Session) (text : String) : Session :=
  s.write .errors (Text.utf8Bytes (s.parameters.headD "sh" ++ ": 1: " ++ text ++ "\n"))

/-- A shell after another one that it has started: what was written, read and put into files
stays, and so does the status. -/
def returning (s after : Session) : Session :=
  let status := match after.ended with
    | some (.exited n) => n
    | some .killed => 137
    | none => after.status
  { s with
    place := { s.place with files := after.place.files }
    input := after.input
    log := after.log
    status
    ended := if after.ended = some .killed then after.ended else s.ended }

/-! ### Parameters -/

/-- The id of the shell, wherever it is asked for. -/
def processId : String := "1"

/-- The value of a plain parameter, if it has one. -/
def parameter? (s : Session) (name : String) : Option String :=
  if name = "#" then some (Text.decimal (s.parameters.length - 1))
  else if name = "?" then some (Text.decimal s.status.toNat)
  else if name = "$" then some processId
  else if name = "@" || name = "*" then some (Text.join " " s.parameters.tail)
  else match name.toNat? with
    | some n => s.parameters[n]?
    | none =>
      if name = "PWD" then some (Path.joined "/tmp" s.place.directory)
      else Table.get? s.bindings name

/-- The value of what stands between braces: a name, a length, or a name with another value for
when it has none. -/
def parameter (s : Session) (name : String) : String :=
  match s.parameter? name with
  | some value => value
  | none =>
    match name.toList with
    | '#' :: rest =>
      Text.decimal ((s.parameter? (String.ofList rest)).getD "").utf8ByteSize
    | cs =>
      match Text.cut? '-' (String.ofList cs) with
      | some (before, usual) =>
        match Text.cut? ':' before with
        | some (plain, _) =>
          let value := (s.parameter? plain).getD ""
          if value.isEmpty then usual else value
        | none => (s.parameter? before).getD usual
      | none => ""

/-- The number that a name stands for in an expression. -/
def number (s : Session) (name : String) : Int :=
  integerOf (s.parameter name)

/-! ### Words -/

/-- Texts that are being put together: those that are finished, last first, and the current one. -/
structure Fields where
  done : List String := []
  current : Option String := none

/-- Ends the current text. -/
def Fields.cut (f : Fields) : Fields :=
  match f.current with
  | some text => ⟨text :: f.done, none⟩
  | none => f

/-- Adds a text to the current one. -/
def Fields.add (f : Fields) (text : String) : Fields :=
  { f with current := some (f.current.getD "" ++ text) }

/-- Adds a value: without quotes it is cut at blanks. -/
def Fields.addValue (f : Fields) (value : String) (quoted : Bool) : Fields :=
  if quoted then f.add value
  else value.toList.foldl (fun f c =>
    if c = ' ' || c = '\t' || c = '\n' then f.cut else f.add (String.ofList [c])) f

/-- Adds a part of a word. -/
def expandPart (s : Session) (f : Fields) : WordPart → Fields
  | .text c _ => f.add (String.ofList [c])
  | .parameter "@" true =>
    match s.parameters.tail with
    | [] => f
    | first :: rest => rest.foldl (fun f text => f.cut.add text) (f.add first)
  | .parameter name quoted => f.addValue (s.parameter name) quoted
  | .arithmetic source quoted =>
    f.addValue (Text.signedDecimal ((Arithmetic.value? s.number source).getD 0)) quoted
  | .substitution _ _ => f
  | .value content quoted => f.addValue content quoted

/-- The texts that a word stands for. -/
def expand (s : Session) (w : Word) : List String :=
  let start : Fields := if w.isEmpty then { current := some "" } else {}
  (w.foldl s.expandPart start).cut.done.reverse

/-- The text that a word stands for where only one is possible. -/
def expandOne (s : Session) (w : Word) : String :=
  Text.join " " (s.expand w)

/-- The name that an assignment gives a value to, and the word for the value. -/
def assignment? (w : Word) : Option (String × Word) :=
  let name := w.takeWhile fun
    | .text c false => isNameChar c
    | _ => false
  match name, w.drop name.length with
  | .text c false :: _, .text '=' false :: value =>
    if isNameStart c then some (Word.literal name, value) else none
  | _, _ => none

/-- Makes the assignments at the front; the words behind them are left. -/
def assign (s : Session) : List Word → Session × List Word
  | [] => (s, [])
  | w :: rest =>
    match assignment? w with
    | some (name, value) =>
      assign { s with bindings := Table.put name (s.expandOne value) s.bindings } rest
    | none => (s, w :: rest)

/-! ### Programs -/

/-- What a program of a shell has done. -/
def ofResult (s : Session) (r : ToolResult) : Session :=
  { (s.write .output r.output).write .errors r.errors with
    status := r.status, input := r.unread }

/-- The numbers of signals that do not end a process. -/
def harmlessSignals : List String := ["-0", "-CONT", "-18", "-CHLD", "-17", "-WINCH", "-28"]

/-- Gives parts of a line to names; the last name takes what is left. -/
def bindFields (s : Session) : List String → List String → Session
  | [], _ => s
  | [name], fields => { s with bindings := Table.put name (Text.join " " fields) s.bindings }
  | name :: names, fields =>
    bindFields { s with bindings := Table.put name (fields.headD "") s.bindings } names fields.tail

/-- Reads a line into names. -/
def readLine (s : Session) (names : List String) : Session :=
  let line := s.input.takeWhile fun b => b != 10
  let rest := s.input.drop line.length
  let fields := (({} : Fields).addValue (Text.decodeLossy line) false).cut.done.reverse
  { s.bindFields names fields with
    input := rest.tail
    status := if rest.isEmpty then 1 else 0 }

/-- Ends the shell. -/
def exit (s : Session) (status : UInt8) : Session :=
  { s with status, ended := some (.exited status) }

/-- Runs a program, or does what the shell itself does. -/
def runWords (s : Session) (words : List String) : Session :=
  let done : Session := { s with status := 0 }
  match words with
  | [] => s
  | ["exit"] => s.exit s.status
  | "exit" :: status :: _ => s.exit (UInt8.ofInt (integerOf status))
  | ["break"] => { done with jump := some .outOfLoop }
  | ["continue"] => { done with jump := some .toNextRound }
  | "wait" :: _ => done
  | "trap" :: _ => done
  | ["set", "-e"] => done
  | ["shift"] => { done with parameters := s.parameters.take 1 ++ s.parameters.drop 2 }
  | ["pwd"] => done.write .output (Text.utf8Bytes (s.parameter "PWD" ++ "\n"))
  | ["cd", name] =>
    match s.place.find name with
    | .ok (.file _) | .error _ => { s.complain ("cd: can't cd to " ++ name) with status := 2 }
    | .ok _ =>
      { done with place := { s.place with directory := Path.joined s.place.directory name } }
  | "read" :: "-r" :: names => s.readLine names
  | "read" :: names => s.readLine names
  | "export" :: names =>
    names.foldl (fun s binding =>
      match Text.cut? '=' binding with
      | some (name, value) => { s with bindings := Table.put name value s.bindings }
      | none => s) done
  | "unset" :: names => { done with bindings := names.foldl Table.erase s.bindings }
  | "kill" :: rest =>
    if rest.getLast? = some processId && !(rest.any harmlessSignals.contains) then
      { s with ended := some .killed }
    else done
  | ["exec"] => done
  | "exec" :: name :: args =>
    let after := s.ofResult ((runTool s.place s.input name args).getD { status := 127 })
    after.exit after.status
  | name :: args =>
    match runTool s.place s.input name args with
    | some result => s.ofResult result
    | none => { s.complain (name ++ ": not found") with status := 127 }

/-! ### Redirections -/

/-- Where a stream goes. -/
inductive Route where
  | stream (stream : Stream)
  | nowhere
  | file (path : String) (append : Bool)
  deriving DecidableEq

/-- Where both streams go. -/
structure Routes where
  output : Route := .stream .output
  errors : Route := .stream .errors

/-- Changes where a stream goes. -/
def Routes.set (r : Routes) (ofErrors : Bool) (route : Route) : Routes :=
  if ofErrors then { r with errors := route } else { r with output := route }

/-- The routes after a redirection. -/
def redirect (s : Session) (r : Routes) : Redirection → Routes
  | .toFile ofErrors append target =>
    let name := s.expandOne target
    r.set ofErrors (
      if name = "/dev/null" then .nowhere
      else if name = "/dev/stdout" then r.output
      else if name = "/dev/stderr" then r.errors
      else .file (Path.joined s.place.directory name) append)
  | .toStream ofErrors target =>
    let name := s.expandOne target
    if name = "1" then r.set ofErrors r.output
    else if name = "2" then r.set ofErrors r.errors
    else if name = "-" then r.set ofErrors .nowhere
    else r
  | _ => r

/-- The input that redirections name, or the name of a file that cannot be read. -/
def redirectedInput (s : Session) (input : List UInt8) :
    List Redirection → Except String (List UInt8)
  | [] => .ok input
  | .noInput :: rest => redirectedInput s [] rest
  | .fromFile source :: rest =>
    let name := s.expandOne source
    match s.place.content endlessBytes name with
    | .ok content => redirectedInput s content rest
    | .error _ => .error name
  | _ :: rest => redirectedInput s input rest

/-- Where a stream goes. -/
def Routes.of (r : Routes) : Stream → Route
  | .output => r.output
  | .errors => r.errors

/-- Puts what has gone to a file into it. -/
def store (routes : Routes) (log : List (Stream × List UInt8)) (files : FileTree) :
    Route → FileTree
  | .file path append =>
    let before := if append then (match files.read path with
      | .ok content => content
      | .error _ => []) else []
    let added := log.reverse.filterMap fun e =>
      if routes.of e.1 = .file path append then some e.2 else none
    files.addFile path (before ++ added.flatten)
  | _ => files

/-- Runs something with redirections. -/
def redirected (s : Session) (redirections : List Redirection) (run : Session → Session) :
    Session :=
  match s.redirectedInput s.input redirections with
  | .error name => { s.complain ("cannot open " ++ name ++ ": No such file") with status := 2 }
  | .ok input =>
    let routes := redirections.foldl s.redirect {}
    let after := run { s with input, log := [] }
    let kept := after.log.filterMap fun e =>
      match routes.of e.1 with
      | .stream stream => some (stream, e.2)
      | _ => none
    let changed := redirections.any fun
      | .noInput | .fromFile _ => true
      | _ => false
    let targets := if routes.output = routes.errors then [routes.output]
      else [routes.output, routes.errors]
    { after with
      input := if changed then s.input else after.input
      log := kept ++ s.log
      place := { after.place with
        files := targets.foldl (store routes after.log) after.place.files } }

/-! ### Scripts -/

/-- Whether a pipe is run after what came before. -/
def follows (s : Session) : Link → Bool
  | .always => true
  | .afterSuccess => s.status == 0
  | .afterFailure => s.status != 0

/-- A text without the line breaks at its end. -/
def withoutBreaks (s : String) : String :=
  String.ofList (s.toList.reverse.dropWhile fun c => c = '\n').reverse

/-- Whether a word has a part that is what a script writes. -/
def runsScript (w : Word) : Bool :=
  w.any fun
    | .substitution _ _ => true
    | _ => false

mutual

/-- Puts what scripts write in the places of a word that stand for it. -/
def settle (fuel : Nat) (s : Session) (w : Word) : Session × Word :=
  match fuel with
  | 0 => (s, w)
  | fuel + 1 =>
    match w with
    | [] => (s, [])
    | .substitution source quoted :: rest =>
      let (s, content) := match parse? source with
        | none => ({ s with status := 2 }, "")
        | some script =>
          let after := runScript fuel { s with log := [] } script
          let errors := after.log.filter fun e => e.1 = .errors
          ({ s.returning after with log := errors ++ s.log },
            withoutBreaks (Text.decodeLossy ((after.written .output).filter fun b => b != 0)))
      let (s, rest) := settle fuel s rest
      (s, .value content quoted :: rest)
    | part :: rest =>
      let (s, rest) := settle fuel s rest
      (s, part :: rest)
termination_by structural fuel

/-- Does so for several words. -/
def settleAll (fuel : Nat) (s : Session) (ws : List Word) : Session × List Word :=
  match fuel with
  | 0 => (s, ws)
  | fuel + 1 =>
    match ws with
    | [] => (s, [])
    | w :: rest =>
      let (s, w) := settle fuel s w
      let (s, rest) := settleAll fuel s rest
      (s, w :: rest)
termination_by structural fuel

/-- Runs a command. -/
def runCommand (fuel : Nat) (s : Session) (c : Command) : Session :=
  match fuel with
  | 0 => { s with status := 1 }
  | fuel + 1 =>
    match c with
    | .simple words redirections =>
      let (s', words') := settleAll fuel s words
      let (s', words') := s'.assign words'
      match words'.flatMap s'.expand with
      | [] =>
        let status := if words.any runsScript then s'.status else 0
        { s' with status }.redirected redirections id
      | texts =>
        let after := s'.redirected redirections fun s => runTexts fuel s texts
        if words'.length < words.length then { after with bindings := s.bindings } else after
    | .group body => runScript fuel s body
    | .apart body => s.returning (runScript fuel s body)
    | .negated pipe =>
      let after := runPipe fuel s pipe
      { after with status := if after.status = 0 then 1 else 0 }
    | .choice condition body otherwise =>
      let s := runScript fuel s condition
      if s.isStopped then s
      else if s.status = 0 then runScript fuel s body
      else runScript fuel { s with status := 0 } otherwise
    | .loop untilSuccess condition body => runLoop fuel untilSuccess condition body 0 s
    | .each name words body =>
      let (s, words) := settleAll fuel s words
      runEach fuel name body (words.flatMap s.expand) { s with status := 0 }
    | .redirected c redirections => s.redirected redirections fun s => runCommand fuel s c
termination_by structural fuel

/-- Runs a program or another shell. -/
def runTexts (fuel : Nat) (s : Session) (texts : List String) : Session :=
  match fuel with
  | 0 => { s with status := 1 }
  | fuel + 1 =>
    match texts with
    | "sh" :: "-c" :: source :: rest =>
      match parse? source with
      | none => { s.complain "Syntax error" with status := 2 }
      | some script =>
        let parameters := if rest.isEmpty then ["sh"] else rest
        s.returning (runScript fuel { s with parameters, bindings := [] } script)
    | "exec" :: "sh" :: rest =>
      let after := runTexts fuel s ("sh" :: rest)
      after.exit after.status
    | "eval" :: words =>
      match parse? (Text.join " " words) with
      | none => { s.complain "Syntax error" with status := 2 }
      | some script => runScript fuel { s with status := 0 } script
    | _ => s.runWords texts
termination_by structural fuel

/-- Runs a loop; `last` is the status of the last round. -/
def runLoop (fuel : Nat) (untilSuccess : Bool) (condition body : ShellScript) (last : UInt8)
    (s : Session) : Session :=
  match fuel with
  | 0 => { s with status := 1 }
  | fuel + 1 =>
    let s := runScript fuel s condition
    if s.isStopped then { s with jump := none }
    else if (s.status = 0) = (untilSuccess = true) then { s with status := last }
    else
      let s := runScript fuel s body
      if s.ended.isSome || s.jump = some .outOfLoop then { s with jump := none }
      else runLoop fuel untilSuccess condition body s.status { s with jump := none }
termination_by structural fuel

/-- Runs a script for each of some texts. -/
def runEach (fuel : Nat) (name : String) (body : ShellScript) (texts : List String)
    (s : Session) : Session :=
  match fuel with
  | 0 => { s with status := 1 }
  | fuel + 1 =>
    match texts with
    | [] => s
    | text :: rest =>
      let s := runScript fuel { s with bindings := Table.put name text s.bindings } body
      if s.ended.isSome || s.jump = some .outOfLoop then { s with jump := none }
      else runEach fuel name body rest { s with jump := none }
termination_by structural fuel

/-- Runs the commands of a pipe, each on the output of the one before. -/
def runPipe (fuel : Nat) (s : Session) (pipe : List Command) : Session :=
  match fuel with
  | 0 => { s with status := 1 }
  | fuel + 1 =>
    match pipe with
    | [] => s
    | [c] => runCommand fuel s c
    | c :: rest =>
      let first := runCommand fuel { s with log := [] } c
      let errors := first.log.filter fun e => e.1 = .errors
      let between := { s.returning first with
        input := first.written .output, log := errors ++ s.log }
      let after := runPipe fuel between rest
      { s.returning after with input := first.input }
termination_by structural fuel

/-- Runs a script. -/
def runScript (fuel : Nat) (s : Session) (script : ShellScript) : Session :=
  match fuel with
  | 0 => { s with status := 1 }
  | fuel + 1 =>
    match script with
    | [] => s
    | (link, pipe) :: rest =>
      if s.isStopped then s
      else if s.follows link then runScript fuel (runPipe fuel s pipe) rest
      else runScript fuel s rest
termination_by structural fuel

end

/-- How deep scripts may go, and how many rounds a loop may take. -/
def patience : Nat := 1000000

/-- The process that is left of a shell. -/
def finished (s : Session) : FinishedProcess :=
  ⟨s.ended.getD (.exited s.status), s.written .output, s.written .errors⟩

end Session

/-- Runs a script in a new shell. -/
def Session.ofScript (s : Session) (script : String) : FinishedProcess :=
  match parse? script with
  | some parsed => (s.runScript Session.patience parsed).finished
  | none => ({ s.complain "Syntax error" with status := 2 }).finished

end Groundwork.Shell
