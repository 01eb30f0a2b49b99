import PolicyHeader.Yaml.Spot

/-!
# Gaps inside a scalar

Between the words of a quoted or plain scalar stand gaps of spaces and line breaks. Spaces on one line
are kept. A gap with line breaks is folded: the spaces in it are lost, a single line feed becomes a
space, and the line feeds after the first stay.
-/

namespace PolicyHeader.Yaml

inductive Gap
  | empty
  /-- Spaces and tabs, the last one first. -/
  | spaces (reversed : List Char)
  /-- The first line break, unless it is escaped, and the later ones, the last one first. -/
  | lines (first : Option Char) (reversed : List Char)
  deriving Repr

namespace Gap

def addSpace (c : Char) : Gap → Gap
  | .empty => .spaces [c]
  | .spaces reversed => .spaces (c :: reversed)
  | .lines first reversed => .lines first reversed

def addBreak (c : Char) : Gap → Gap
  | .lines first reversed => .lines first (c :: reversed)
  | _ => .lines (some c) []

def isEmpty : Gap → Bool
  | .empty => true
  | _ => false

def hasBreak : Gap → Bool
  | .lines .. => true
  | _ => false

/-- What a gap leaves in the scalar, the last character first. -/
def reversedText : Gap → List Char
  | .empty => []
  | .spaces reversed => reversed
  | .lines (some '\n') [] => [' ']
  | .lines (some '\n') reversed => reversed
  | .lines first reversed => reversed ++ first.toList

end Gap

end PolicyHeader.Yaml
