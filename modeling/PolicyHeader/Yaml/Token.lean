/-!
# Tokens of a YAML stream

A token is a mark, a property of a node, a scalar, or the start or end of a block collection, which
indentation shows. Of a tag, only the handle matters here.
-/

namespace PolicyHeader.Yaml

inductive Token
  | version (major minor : Nat)
  /-- A directive that defines a tag handle. -/
  | tagHandle (handle : List Char)
  | documentStart
  | documentEnd
  | streamEnd
  | blockSequence
  | blockMapping
  | blockEnd
  | flowSequence
  | flowSequenceEnd
  | flowMapping
  | flowMappingEnd
  | blockEntry
  | flowEntry
  | key
  | value
  | alias (name : List Char)
  | anchor (name : List Char)
  /-- A tag, by its handle, which is empty if the tag stands for itself. -/
  | tag (handle : List Char)
  | scalar (text : List Char) (plain : Bool)
  deriving DecidableEq, Repr

end PolicyHeader.Yaml
