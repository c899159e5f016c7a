/-!
# Tokens

What a YAML text is made of once its indentation has been turned into marks: every block begins
with a start and ends with an end, and every key of a mapping is announced.
-/

namespace FlowWarden.Document.Yaml

/-- A line before a document that says how to read it. -/
inductive Directive
  /-- The version of YAML, of which the first number counts. -/
  | version (major : Nat)
  /-- What a handle at the start of a tag stands for. -/
  | handle (name : String) (meaning : String)
  /-- Anything else, which is ignored. -/
  | other
deriving DecidableEq, Repr

/-- A tag as written: its handle, unless the tag stands for itself, and the rest of it. -/
structure WrittenTag where
  handle : Option String
  suffix : String
deriving DecidableEq, Repr

/-- A piece of a text. -/
inductive Token
  | directive (d : Directive)
  | documentStart
  | documentEnd
  | blockSequenceStart
  | blockMappingStart
  | blockEnd
  | flowSequenceStart
  | flowSequenceEnd
  | flowMappingStart
  | flowMappingEnd
  /-- The comma between two items. -/
  | flowEntry
  /-- The dash before an item. -/
  | blockEntry
  | key
  | value
  | alias (name : String)
  | anchor (name : String)
  | tag (t : WrittenTag)
  /-- A scalar, and whether it is without quotes and not a block. -/
  | scalar (content : String) (plain : Bool)
deriving DecidableEq, Repr

end FlowWarden.Document.Yaml
