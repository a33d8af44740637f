import Groundwork.Settings

/-!
# Templates

A template is text with references: a dollar sign and, in braces, a name of ASCII letters, digits
and underscores.  A reference is replaced by the text of the setting it names; what is put in is not
looked at again.  Text that is no reference stays as it is.
-/

namespace Groundwork.Template

/-- A part of a template. -/
inductive Piece where
  | literal (c : Char)
  | reference (name : String)
  deriving DecidableEq

/-- The characters of names in references. -/
def isNameChar (c : Char) : Bool :=
  c.isAlphanum || c == '_'

/-- The name of the reference that the characters begin with, and the characters after it. -/
def readReference : List Char → Option (List Char × List Char)
  | '$' :: '\x7b' :: rest =>
    match rest.dropWhile isNameChar with
    | '\x7d' :: after =>
      if (rest.takeWhile isNameChar).isEmpty then none
      else some (rest.takeWhile isNameChar, after)
    | _ => none
  | _ => none

theorem length_dropWhile_le (p : Char → Bool) (cs : List Char) :
    (cs.dropWhile p).length ≤ cs.length :=
  (List.dropWhile_sublist p).length_le

theorem length_readReference_lt {cs name after : List Char}
    (h : readReference cs = some (name, after)) : after.length < cs.length := by
  unfold readReference at h
  split at h
  · rename_i rest
    split at h
    · rename_i tail hdrop
      split at h
      · simp at h
      · simp only [Option.some.injEq, Prod.mk.injEq] at h
        have hle := length_dropWhile_le isNameChar rest
        rw [hdrop, h.2] at hle
        simp only [List.length_cons] at hle ⊢
        omega
    · simp at h
  · simp at h

/-- The pieces of a template, from left to right. -/
def pieces (cs : List Char) : List Piece :=
  match _h : readReference cs with
  | some (name, after) => .reference (String.ofList name) :: pieces after
  | none =>
    match cs with
    | [] => []
    | c :: rest => .literal c :: pieces rest
termination_by cs.length
decreasing_by
  · exact length_readReference_lt _h
  · simp

/-- Puts texts in place of the references; the first name without a text is the error. -/
def fillPieces (text : String → Option String) : List Piece → Except String (List Char)
  | [] => .ok []
  | .literal c :: rest => (fillPieces text rest).map (c :: ·)
  | .reference name :: rest =>
    match text name with
    | some s => (fillPieces text rest).map (s.toList ++ ·)
    | none => .error name

/-- Fills a template for a unit: a reference becomes the text of the setting that the unit means by
the name, passed through `escape`. -/
def fill (escape : String → String) (settings : Settings) (unit template : String) :
    Except SetupError String :=
  let text (name : String) : Option String :=
    (settings.get? name (some unit)).map fun s => escape s.value.text
  match fillPieces text (pieces template.toList) with
  | .ok cs => .ok (String.ofList cs)
  | .error name => .error (.unknown name)

end Groundwork.Template
