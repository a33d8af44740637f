/-!
# Finding and cutting text

Where a text occurs in another one, and how a text is cut at a character.  Everything is said on
lists of characters first, so that the list lemmas apply.
-/

namespace Groundwork.Text

/-! ### Occurrence -/

/-- Whether the characters `needle` stand somewhere in `hay`, one after the other. -/
def occursIn (needle : List Char) : List Char → Bool
  | [] => needle.isEmpty
  | c :: cs => needle.isPrefixOf (c :: cs) || occursIn needle cs

/-- Whether the text holds `needle`; every text holds the empty one. -/
def contains (hay needle : String) : Bool :=
  occursIn needle.toList hay.toList

/-- Whether the text begins with `start`. -/
def startsWith (s start : String) : Bool :=
  start.toList.isPrefixOf s.toList

/-- What follows `start` in a text that begins with it. -/
def after? (s start : String) : Option String :=
  if startsWith s start then some (String.ofList (s.toList.drop start.toList.length)) else none

/-! ### Cutting -/

/-- The pieces between the occurrences of `mark`; one more piece than there are marks. -/
def splitChars (mark : Char) : List Char → List (List Char)
  | [] => [[]]
  | c :: cs =>
    if c = mark then [] :: splitChars mark cs
    else match splitChars mark cs with
      | [] => [[c]]
      | piece :: rest => (c :: piece) :: rest

/-- The pieces of a text between the occurrences of `mark`. -/
def split (mark : Char) (s : String) : List String :=
  (splitChars mark s.toList).map String.ofList

/-- The characters before the first `mark` and those after it, if there is one. -/
def cutChars (mark : Char) : List Char → Option (List Char × List Char)
  | [] => none
  | c :: cs =>
    if c = mark then some ([], cs)
    else (cutChars mark cs).map fun (before, rest) => (c :: before, rest)

/-- The text before the first `mark` and the text after it, if there is one. -/
def cut? (mark : Char) (s : String) : Option (String × String) :=
  (cutChars mark s.toList).map fun (before, rest) => (String.ofList before, String.ofList rest)

/-- The texts one after the other with `glue` between neighbours. -/
def join (glue : String) : List String → String
  | [] => ""
  | [s] => s
  | s :: rest => s ++ glue ++ join glue rest

/-- The text with every `old` replaced by `new`. -/
def replaceChar (old new : Char) (s : String) : String :=
  String.ofList (s.toList.map fun c => if c = old then new else c)

/-- The text with its ASCII capitals made small. -/
def lowerAscii (s : String) : String :=
  String.ofList (s.toList.map Char.toLower)

/-- `n` copies of a character. -/
def replicate (n : Nat) (c : Char) : String :=
  String.ofList (List.replicate n c)

end Groundwork.Text
