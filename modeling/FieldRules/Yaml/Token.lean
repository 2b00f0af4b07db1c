/-!
The tokens of YAML texts.
-/

namespace FieldRules.Yaml

/-- How a scalar is written. -/
inductive ScalarStyle where
  | plain | quoted | block
  deriving DecidableEq, Repr

/-- A token. Those that open and close block collections come from indentation. -/
inductive Token where
  | versionDirective (major minor : Nat)
  | tagDirective (handle start : List Char)
  | documentStart
  | documentEnd
  | blockSequenceStart
  | blockMappingStart
  | blockEnd
  | flowSequenceStart
  | flowSequenceEnd
  | flowMappingStart
  | flowMappingEnd
  | blockEntry
  | flowEntry
  | key
  | value
  | alias (name : List Char)
  | anchor (name : List Char)
  | tag (handle suffix : List Char)
  | scalar (style : ScalarStyle) (text : List Char)
  | streamEnd
  deriving DecidableEq, Repr

end FieldRules.Yaml
