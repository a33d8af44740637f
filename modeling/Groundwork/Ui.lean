import Groundwork.Text.Decimal
import Groundwork.Text.Search

/-!
# Progress lines

Short lines that tell the user what happens.  Each line has a level with a symbol and a colour.  All
lines are kept; details are dropped unless the user wants them.
-/

namespace Groundwork

/-! ### Styles -/

/-- How a text is set on a terminal: colours and attributes by their numbers, in order. -/
abbrev Style := List Nat

namespace Style

def bold : Style := [1]
def dim : Style := [2]
def red : Style := [31]
def green : Style := [32]
def yellow : Style := [33]
def blue : Style := [34]
def cyan : Style := [36]

/-- A text in a style, if the terminal has colours. -/
def apply (style : Style) (colors : Bool) (s : String) : String :=
  if colors && !style.isEmpty then
    style.foldl (fun text n => text ++ "\x1b[" ++ Text.decimal n ++ "m") "" ++ s ++ "\x1b[0m"
  else s

end Style

/-! ### Levels -/

/-- What a line is about. -/
inductive Level where
  | note
  | progress
  | success
  | exclamation
  | problem
  | detail
  deriving DecidableEq

namespace Level

/-- The symbol in front of a line. -/
def symbol : Level → String
  | .note => "→"
  | .progress => "◐"
  | .success => "✓"
  | .exclamation => "⚠"
  | .problem => "✗"
  | .detail => "·"

/-- The style of the symbol. -/
def symbolStyle : Level → Style
  | .note => Style.blue ++ Style.bold
  | .progress => Style.cyan
  | .success => Style.green
  | .exclamation => Style.yellow
  | .problem => Style.red
  | .detail => Style.dim

/-- The style of the text. -/
def textStyle : Level → Style
  | .success => Style.green
  | .problem => Style.red
  | .detail => Style.dim
  | _ => []

/-- A line as it is printed. -/
def printed (level : Level) (colors : Bool) (text : String) : String :=
  (if level = .detail then "  " else "") ++ level.symbolStyle.apply colors level.symbol ++ " "
    ++ level.textStyle.apply colors text

end Level

/-! ### The reporter -/

/-- The lines so far, and whether details are among them. -/
structure Ui where
  verbose : Bool := false
  transcript : List (Level × String) := []
  deriving DecidableEq

namespace Ui

/-- Whether a line of this level is dropped. -/
def drops (ui : Ui) (level : Level) : Bool :=
  level = .detail && !ui.verbose

/-- Adds a line, unless it is dropped. -/
def say (ui : Ui) (level : Level) (text : String) : Ui :=
  if ui.drops level then ui else { ui with transcript := ui.transcript ++ [(level, text)] }

/-- Whether there is a line of this level that holds a text. -/
def saw (ui : Ui) (level : Level) (needle : String) : Bool :=
  ui.transcript.any fun line => line.1 = level && Text.contains line.2 needle

/-- The lines as they are printed. -/
def printed (ui : Ui) (colors : Bool) : String :=
  ui.transcript.foldl (fun out line => out ++ line.1.printed colors line.2 ++ "\n") ""

end Ui

end Groundwork
