import IndexerTypes.Yaml.Place

/-! The tokens of a YAML text. Indentation is spelled out by tokens that open and close
blocks; the end of the list is the end of the text. -/

namespace IndexerTypes.Yaml

/-- The bytes of a tag; escapes can spell bytes that are no text. -/
abbrev Tag := List UInt8

/-- A tag as it is written: a handle, which a directive may expand, and the rest. -/
structure TagText where
  handle : String
  suffix : Tag
  deriving DecidableEq, Repr

inductive Token where
  | version (major minor : Nat)
  | tagDirective (handle : String) (expansion : Tag)
  | documentStart
  | documentEnd
  | blockSequenceStart
  | blockMappingStart
  | blockEnd
  | flowSequenceStart
  | flowSequenceEnd
  | flowMappingStart
  | flowMappingEnd
  | blockEntry
  | flowEntry
  | key
  | value
  | reference (anchor : String)
  | anchor (name : String)
  | tag (text : TagText)
  | scalar (isPlain : Bool) (text : String)
  deriving DecidableEq, Repr

end IndexerTypes.Yaml
