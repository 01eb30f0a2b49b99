/-!
# Events of a YAML document

A document is the list of its nodes in the order of the text, with events at the start and the end of
each collection. A node may have an anchor, and an alias stands for the node of an anchor.
-/

namespace PolicyHeader.Yaml

/-- An event, with anchors and aliases given by a name or by a number. -/
inductive Event (ι : Type)
  | scalar (anchor : Option ι) (text : List Char) (plain : Bool)
  | sequenceStart (anchor : Option ι)
  | sequenceEnd
  | mappingStart (anchor : Option ι)
  | mappingEnd
  | alias (target : ι)
  deriving DecidableEq, Repr

namespace Event

variable {ι : Type}

/-- The anchor of the node that an event starts. -/
def anchor? : Event ι → Option ι
  | .scalar anchor _ _ => anchor
  | .sequenceStart anchor => anchor
  | .mappingStart anchor => anchor
  | _ => none

end Event

end PolicyHeader.Yaml
