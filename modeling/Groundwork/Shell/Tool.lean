import Groundwork.FileTree
import Groundwork.Shell.Format

/-!
# Small tools

The programs that scripts are made of: each turns arguments, input and the files it may read into
output, errors and an exit status.
-/

namespace Groundwork.Shell

/-- What a tool has done. -/
structure ToolResult where
  status : UInt8 := 0
  output : List UInt8 := []
  errors : List UInt8 := []
  /-- The input that it has left. -/
  unread : List UInt8 := []

/-- Files, and the directory in which names are looked for. -/
structure Workplace where
  files : FileTree := {}
  directory : String := ""

/-! ### Files -/

/-- The content of a file; the zero device is as long as asked for. -/
def Workplace.content (w : Workplace) (zeros : Nat) (name : String) :
    Except IoFault (List UInt8) :=
  if name = "/dev/null" then .ok []
  else if name = "/dev/zero" then .ok (List.replicate zeros 0)
  else w.files.read (Path.joined w.directory name)

/-- What a name leads to. -/
def Workplace.find (w : Workplace) (name : String) : Except IoFault FileTree.Place :=
  w.files.find (Path.joined w.directory name)

/-- The names in a directory of the tree, in order. -/
def Workplace.names (w : Workplace) (directory : List String) : List String :=
  let below (path : List String) : Option String :=
    if directory.isPrefixOf path then (path.drop directory.length).head? else none
  let all := w.files.files.filterMap (fun f => below f.1) ++ w.files.directories.filterMap below
  all.eraseDups.mergeSort fun a b => decide (a ≤ b)

/-- The words for a fault without its number. -/
def faultWords (fault : IoFault) : String :=
  (fault.message.splitOn " (os error").headD ""

/-- Writes files out one after the other. -/
def concatenate (w : Workplace) (input : List UInt8) : List String → ToolResult
  | [] => { unread := input }
  | name :: rest =>
    if name = "-" then
      let r := concatenate w [] rest
      { r with output := input ++ r.output }
    else
      match w.content 0 name with
      | .ok content =>
        let r := concatenate w input rest
        { r with output := content ++ r.output }
      | .error fault =>
        let r := concatenate w input rest
        { r with
          status := 1
          errors := Text.utf8Bytes ("cat: " ++ name ++ ": " ++ faultWords fault ++ "\n")
            ++ r.errors }

/-! ### Bytes and lines -/

/-- The bytes of a set: ranges are written with a hyphen. -/
def byteSet : List UInt8 → List UInt8
  | a :: 45 :: b :: rest =>
    (List.range (b.toNat + 1 - a.toNat)).map (fun i => UInt8.ofNat (a.toNat + i)) ++ byteSet rest
  | a :: rest => a :: byteSet rest
  | [] => []

/-- The byte at the same place of another set, or the last one there. -/
def translate (source target : List UInt8) (b : UInt8) : UInt8 :=
  match source.findIdx? fun a => a = b with
  | some i => (target[i]?.or target.getLast?).getD b
  | none => b

/-- The number of bytes that a number of lines takes, with their line breaks. -/
def lineBytes : Nat → Nat → List UInt8 → Nat
  | 0, taken, _ => taken
  | _, taken, [] => taken
  | n + 1, taken, b :: bs => lineBytes (if b = 10 then n else n + 1) (taken + 1) bs

/-- The first lines of bytes. -/
def takeLines (count : Nat) (bytes : List UInt8) : List UInt8 :=
  bytes.take (lineBytes count 0 bytes)

/-- The number of line breaks. -/
def lineCount (bytes : List UInt8) : Nat :=
  bytes.count 10

/-- The last lines of bytes. -/
def lastLines (count : Nat) (bytes : List UInt8) : List UInt8 :=
  let lines := lineCount bytes + (if bytes.getLast? = some 10 || bytes.isEmpty then 0 else 1)
  bytes.drop (lineBytes (lines - count) 0 bytes)

/-- The lines of bytes without their line breaks. -/
def linesOf (bytes : List UInt8) : List (List UInt8) :=
  let pieces := bytes.splitBy fun a _ => a != 10
  pieces.map fun piece => if piece.getLast? = some 10 then piece.dropLast else piece

/-- Whether one line comes before another one. -/
def lineBefore : List UInt8 → List UInt8 → Bool
  | [], _ => true
  | _ :: _, [] => false
  | a :: as, b :: bs => if a = b then lineBefore as bs else a < b

/-- Lines with line breaks. -/
def unlines (lines : List (List UInt8)) : List UInt8 :=
  lines.flatMap fun line => line ++ [10]

/-- Numbers from one to another in steps, one on a line. -/
def numbered (first step last : Int) : List UInt8 :=
  let count := if step = 0 then 0 else ((last - first).tdiv step + 1).toNat
  let reached := if step > 0 then first ≤ last else last ≤ first
  if reached then
    (List.range count).flatMap fun (i : Nat) =>
      Text.utf8Bytes (Text.signedDecimal (first + i * step) ++ "\n")
  else []

/-- How much a tool that never ends is taken to write. -/
def endlessBytes : Nat := 1048576

/-- A line again and again, without end. -/
def endlessLine (line : String) : List UInt8 :=
  let bytes := Text.utf8Bytes (line ++ "\n")
  (List.replicate (endlessBytes / bytes.length + 1) bytes).flatten

/-- A part of a file or of the input. -/
def part (w : Workplace) (input : List UInt8) (tool : String) (zeros : Nat) (name : Option String)
    (take : List UInt8 → List UInt8) : ToolResult :=
  match name with
  | none =>
    let output := take input
    { output, unread := input.drop output.length }
  | some name =>
    match w.content zeros name with
    | .ok content => { output := take content, unread := input }
    | .error fault =>
      { status := 1, unread := input
        errors := Text.utf8Bytes (tool ++ ": cannot open '" ++ name ++ "' for reading: "
          ++ faultWords fault ++ "\n") }

/-! ### Tests -/

/-- The integer an argument writes. -/
def integerOf (s : String) : Int := (Text.readSigned s.toList).getD 0

/-- Whether a test on arguments holds. -/
def holds (w : Workplace) : List String → Bool
  | [] => false
  | "!" :: rest => !holds w rest
  | [s] => !s.isEmpty
  | ["-n", s] => !s.isEmpty
  | ["-z", s] => s.isEmpty
  | ["-e", s] => (w.find s).isOk
  | ["-r", s] => (w.find s).isOk
  | ["-f", s] => (w.content 0 s).isOk
  | ["-s", s] => match w.content 0 s with
    | .ok bytes => !bytes.isEmpty
    | .error _ => false
  | ["-d", s] => match w.find s with
    | .ok (.file _) => false
    | .ok _ => true
    | .error _ => false
  | [a, "=", b] => a == b
  | [a, "!=", b] => a != b
  | [a, "-eq", b] => integerOf a == integerOf b
  | [a, "-ne", b] => integerOf a != integerOf b
  | [a, "-lt", b] => integerOf a < integerOf b
  | [a, "-le", b] => integerOf a ≤ integerOf b
  | [a, "-gt", b] => integerOf a > integerOf b
  | [a, "-ge", b] => integerOf a ≥ integerOf b
  | _ => false

/-! ### Tools -/

/-- The last piece of a path. -/
def baseName (path : String) : String :=
  (Path.named path).getLast?.getD "/"

/-- What a tool writes that counts, in bytes. -/
def countLine (n : Nat) : List UInt8 := Text.utf8Bytes (Text.decimal n ++ "\n")

/-- The names in a directory, one on a line. -/
def listing (w : Workplace) (input : List UInt8) (name : String) : ToolResult :=
  match w.find name with
  | .ok (.inside directory) =>
    { unread := input
      output := unlines (((w.names directory).filter fun n => !Text.startsWith n ".").map
        Text.utf8Bytes) }
  | .ok _ => { unread := input, output := Text.utf8Bytes (name ++ "\n") }
  | .error fault =>
    { status := 2, unread := input
      errors := Text.utf8Bytes ("ls: cannot access '" ++ name ++ "': " ++ faultWords fault
        ++ "\n") }

/-- Runs a tool, if there is one of that name. -/
def runTool (w : Workplace) (input : List UInt8) (name : String) (args : List String) :
    Option ToolResult :=
  let silent : ToolResult := { unread := input }
  let count (s : String) : Nat := (s.toNat?).getD 0
  match name, args with
  | "true", _ => some silent
  | ":", _ => some silent
  | "sleep", _ => some silent
  | "false", _ => some { silent with status := 1 }
  | "cat", [] => some { output := input }
  | "cat", names => some (concatenate w input names)
  | "echo", "-n" :: words => some { silent with output := unescaped (Text.join " " words) }
  | "echo", words => some { silent with output := unescaped (Text.join " " words) ++ [10] }
  | "printf", format :: words => some { silent with output := formatted format words }
  | "tr", ["-d", set] =>
    let source := byteSet (unescaped set)
    some { output := input.filter fun b => !source.contains b }
  | "tr", [source, target] =>
    let change := translate (byteSet (unescaped source)) (byteSet (unescaped target))
    some { output := input.map change }
  | "wc", ["-c"] => some { output := countLine input.length }
  | "wc", ["-l"] => some { output := countLine (lineCount input) }
  | "head", "-c" :: n :: rest =>
    some (part w input name (count n) rest.head? (List.take (count n)))
  | "head", "-n" :: n :: rest => some (part w input name 0 rest.head? (takeLines (count n)))
  | "head", rest => some (part w input name 0 rest.head? (takeLines 10))
  | "tail", "-c" :: n :: rest =>
    some (part w input name 0 rest.head? fun bytes => bytes.drop (bytes.length - count n))
  | "tail", "-n" :: n :: rest => some (part w input name 0 rest.head? (lastLines (count n)))
  | "tail", rest => some (part w input name 0 rest.head? (lastLines 10))
  | "sort", [] => some { output := unlines ((linesOf input).mergeSort lineBefore) }
  | "seq", [last] => some { silent with output := numbered 1 1 (integerOf last) }
  | "seq", [first, last] =>
    some { silent with output := numbered (integerOf first) 1 (integerOf last) }
  | "seq", [first, step, last] =>
    some { silent with output := numbered (integerOf first) (integerOf step) (integerOf last) }
  | "yes", [] => some { silent with output := endlessLine "y" }
  | "yes", words => some { silent with output := endlessLine (Text.join " " words) }
  | "basename", [path] => some { silent with output := Text.utf8Bytes (baseName path ++ "\n") }
  | "ls", [] => some (listing w input ".")
  | "ls", [path] => some (listing w input path)
  | "test", condition => some { silent with status := if holds w condition then 0 else 1 }
  | "[", condition => some { silent with status := if holds w condition.dropLast then 0 else 1 }
  | _, _ => none

end Groundwork.Shell
