/-!
# Tokens of YAML

Blocks, whose extent is given by indentation, have tokens of their own where they start and end.
-/

namespace Formulary.Yaml

inductive Token where
  | versionDirective
  | tagDirective (handle meaning : List Char)
  | documentStart
  | documentEnd
  | blockSequenceStart
  | blockMappingStart
  | blockEnd
  | flowSequenceStart
  | flowSequenceEnd
  | flowMappingStart
  | flowMappingEnd
  | blockEntry
  | flowEntry
  | key
  | value
  | alias (name : List Char)
  | anchor (name : List Char)
  | tag (handle suffix : List Char)
  | scalar (text : List Char) (plain : Bool)
  deriving DecidableEq

end Formulary.Yaml
