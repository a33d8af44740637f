/-!
# Tokens

The marks and scalars that a document is made of.
-/

namespace Groundwork.Yaml

/-- How a scalar is written. -/
inductive ScalarStyle where
  | plain
  | singleQuoted
  | doubleQuoted
  | literal
  | folded
  deriving DecidableEq

/-- A mark or a scalar. -/
inductive Token where
  /-- The end of the text. -/
  | streamEnd
  /-- A line that names the version of the format. -/
  | version (major minor : Nat)
  /-- A line that gives a short form to the beginning of tags. -/
  | tagShort (handle start : String)
  | documentStart
  | documentEnd
  | blockSequenceStart
  | blockMappingStart
  | blockEnd
  | flowSequenceStart
  | flowSequenceEnd
  | flowMappingStart
  | flowMappingEnd
  /-- The hyphen in front of an item. -/
  | blockEntry
  /-- The comma between items. -/
  | flowEntry
  | key
  | value
  | alias (name : String)
  | anchor (name : String)
  | tag (handle suffix : String)
  | scalar (text : String) (style : ScalarStyle)
  deriving DecidableEq

end Groundwork.Yaml
