import Groundwork.Text.Decimal
import Groundwork.Text.Search
import Groundwork.Text.Utf8

/-!
# Formats

Escape sequences, and formats whose directives are replaced by arguments.  A format is gone through
again as long as there are arguments.
-/

namespace Groundwork.Shell

/-! ### Escape sequences -/

/-- The value of up to `count` octal digits, and the characters after them. -/
def octal : Nat → Nat → List Char → Nat × List Char
  | 0, value, cs => (value, cs)
  | _ + 1, value, [] => (value, [])
  | count + 1, value, c :: cs =>
    if '0' ≤ c ∧ c ≤ '7' then octal count (value * 8 + (c.toNat - 48)) cs else (value, c :: cs)

/-- The byte of an escape sequence without digits. -/
def namedEscape : Char → Option Nat
  | 'n' => some 10
  | 't' => some 9
  | 'r' => some 13
  | 'a' => some 7
  | 'b' => some 8
  | 'f' => some 12
  | 'v' => some 11
  | '\\' => some 92
  | _ => none

/-- The bytes of the escape sequence after a backslash, and the number of characters it takes. -/
def escape (cs : List Char) : List UInt8 × Nat :=
  match cs with
  | [] => ([92], 0)
  | c :: rest =>
    if '0' ≤ c ∧ c ≤ '7' then
      let (value, left) := octal (if c = '0' then 4 else 3) 0 cs
      ([UInt8.ofNat value], cs.length - left.length)
    else match namedEscape c with
      | some n => ([UInt8.ofNat n], 1)
      | none => (92 :: Text.utf8Bytes (String.ofList [c]), cs.length - rest.length)

/-- Replaces escape sequences; so many characters in front are left out. -/
def unescapeFrom : Nat → List Char → List UInt8
  | _, [] => []
  | n + 1, _ :: cs => unescapeFrom n cs
  | 0, c :: cs =>
    if c = '\\' then
      let (bytes, n) := escape cs
      bytes ++ unescapeFrom n cs
    else Text.utf8Bytes (String.ofList [c]) ++ unescapeFrom 0 cs

/-- Replaces the escape sequences of a text. -/
def unescaped (s : String) : List UInt8 := unescapeFrom 0 s.toList

/-! ### Directives -/

/-- What stands between a percent sign and the end of a directive. -/
structure Directive where
  flags : List Char
  width : Nat
  precision : Option Nat
  conversion : Char
  /-- The number of characters behind the percent sign. -/
  length : Nat

/-- A number at the front, zero if there is none. -/
def readWidth (cs : List Char) : Nat × List Char :=
  ((Text.readDigits (cs.takeWhile Char.isDigit)).getD 0, cs.dropWhile Char.isDigit)

/-- The directive at the front. -/
def readDirective (cs : List Char) : Option Directive :=
  let isFlag (c : Char) : Bool := "-+ 0#".toList.contains c
  let (width, rest) := readWidth (cs.dropWhile isFlag)
  let (precision, rest) := match rest with
    | '.' :: rest =>
      let (n, rest) := readWidth rest
      (some n, rest)
    | rest => (none, rest)
  rest.head?.map fun c =>
    ⟨cs.takeWhile isFlag, width, precision, c, cs.length - rest.length + 1⟩

/-- Puts blanks or zeros beside what a directive writes. -/
def Directive.padded (d : Directive) (sign content : List UInt8) : List UInt8 :=
  let gap := d.width - (sign.length + content.length)
  if d.flags.contains '-' then sign ++ content ++ List.replicate gap 32
  else if d.flags.contains '0' && d.precision.isNone then
    sign ++ List.replicate gap 48 ++ content
  else List.replicate gap 32 ++ sign ++ content

/-- Writes an integer. -/
def Directive.integer (d : Directive) (i : Int) (digits : List Char) : List UInt8 :=
  let sign : List UInt8 :=
    if i < 0 then [45] else if d.flags.contains '+' then [43]
    else if d.flags.contains ' ' then [32] else []
  let zeros := List.replicate ((d.precision.getD 1) - digits.length) '0'
  d.padded sign (Text.utf8Bytes (String.ofList (zeros ++ digits)))

/-- Writes a text. -/
def Directive.text (d : Directive) (bytes : List UInt8) : List UInt8 :=
  let shown := match d.precision with
    | some n => bytes.take n
    | none => bytes
  { d with flags := d.flags.filter fun c => c != '0' }.padded [] shown

/-- What a directive writes of an argument. -/
def Directive.apply (d : Directive) (argument : String) : List UInt8 :=
  let i := (Text.readSigned argument.toList).getD 0
  match d.conversion with
  | 's' => d.text (Text.utf8Bytes argument)
  | 'b' => d.text (unescaped argument)
  | 'c' => d.text ((Text.utf8Bytes argument).take 1)
  | 'x' => d.integer i (Nat.toDigits 16 i.natAbs)
  | 'X' => d.integer i ((Nat.toDigits 16 i.natAbs).map Char.toUpper)
  | 'o' => d.integer i (Nat.toDigits 8 i.natAbs)
  | _ => d.integer i (Text.digits i.natAbs)

/-! ### Formats -/

/-- Goes through a format once; so many characters in front are left out. -/
def formatFrom : Nat → List Char → List String → List UInt8 × List String
  | _, [], args => ([], args)
  | n + 1, _ :: cs, args => formatFrom n cs args
  | 0, c :: cs, args =>
    if c = '\\' then
      let (bytes, n) := escape cs
      let (more, left) := formatFrom n cs args
      (bytes ++ more, left)
    else if c = '%' then
      match readDirective cs with
      | some d =>
        if d.conversion = '%' then
          let (more, left) := formatFrom d.length cs args
          (37 :: more, left)
        else
          let (more, left) := formatFrom d.length cs args.tail
          (d.apply (args.headD "") ++ more, left)
      | none =>
        let (more, left) := formatFrom 0 cs args
        (37 :: more, left)
    else
      let (more, left) := formatFrom 0 cs args
      (Text.utf8Bytes (String.ofList [c]) ++ more, left)

/-- Goes through a format until no argument is left, `rounds` times at most: the pieces that it
writes, last first. -/
def formatRounds (format : List Char) :
    Nat → List String → List (List UInt8) → List (List UInt8)
  | 0, _, done => done
  | rounds + 1, args, done =>
    let (bytes, left) := formatFrom 0 format args
    if left.isEmpty || left.length = args.length then bytes :: done
    else formatRounds format rounds left (bytes :: done)

/-- What a format writes of arguments. -/
def formatted (format : String) (args : List String) : List UInt8 :=
  (formatRounds format.toList (args.length + 1) args []).reverse.flatten

end Groundwork.Shell
