import PolicyHeader.Text.Pieces
import PolicyHeader.Text.Quoted

/-!
# Tags

A header line may open with a tag, such as `@kinds`, and give values after it. Tag and values are
separated by blanks, and blanks may also stand before the tag.
-/

namespace PolicyHeader

namespace Tag

def kinds : String := "@kinds"

def labels : String := "@matchlabels"

def requirement : String := "@matchExpression"

def title : String := "@title"

def enforcement : String := "@enforcement"

end Tag

/-- What can be wrong with a header line. -/
inductive HeaderError
  /-- The line does not open with the tag. -/
  | tagMismatch (tag : String)
  /-- The tag has no values. -/
  | noValues (tag : String)
  /-- A label requirement is written with two or three values, not with `found` of them. -/
  | requirementArity (line : String) (found : Nat)
  /-- A label has no key, or has no value where one is called for. -/
  | malformedLabel (token : String)
  deriving DecidableEq, Repr

/-- The text of an error. -/
def HeaderError.message : HeaderError → String
  | .tagMismatch tag => "Line does not start with tag " ++ tag
  | .noValues tag => "Annotation " ++ tag ++ " requires at least one value"
  | .requirementArity line found =>
    Tag.requirement ++ " expects 2 or 3 arguments, found " ++ toString found ++ ": " ++
      Text.quote line
  | .malformedLabel token => "Malformed " ++ Tag.labels ++ " entry, expected key=value: " ++ token

namespace Tag

/-- The text after the tag, if a line opens with the tag as a whole word. An empty tag opens no
line. -/
def rest? (tag line : List Char) : Option (List Char) :=
  if tag.isEmpty then none
  else
    match tag.isPrefixOf? (Text.trimStart line) with
    | some [] => some []
    | some (c :: rest) => if Text.isBlank c then some (c :: rest) else none
    | none => none

/-- The values of a line that carries the tag, which may be none at all. -/
def values? (tag line : String) : Option (List String) :=
  (rest? tag.toList line.toList).map fun rest => (Text.words rest).map String.ofList

/-- The values of a line that has to carry the tag and at least one value. -/
def values (tag line : String) : Except HeaderError (List String) :=
  match values? tag line with
  | none => .error (.tagMismatch tag)
  | some [] => .error (.noValues tag)
  | some values => .ok values

end Tag

end PolicyHeader
