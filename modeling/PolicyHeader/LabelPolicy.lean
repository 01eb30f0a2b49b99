import PolicyHeader.Text.Blank
import PolicyHeader.Text.Lowercase
import PolicyHeader.Text.Quoted

/-!
# Label policies

A label policy decides what becomes of a label that is written without a value. Its name is read
without regard to letter case or blanks around it.
-/

namespace PolicyHeader

inductive LabelPolicy
  /-- A label without a value is an error. -/
  | reject
  /-- A label without a value has the empty value. -/
  | emptyValue
  deriving DecidableEq, Repr, Inhabited

namespace LabelPolicy

def name : LabelPolicy → String
  | .reject => "reject"
  | .emptyValue => "empty-value"

/-- The policy that a text names. -/
def ofText? (text : String) : Option LabelPolicy :=
  let word := String.ofList (Text.lowercase (Text.trim text.toList))
  if word = "reject" then some .reject
  else if word = "empty-value" ∨ word = "empty_value" then some .emptyValue
  else none

/-- The complaint about a text that names no policy. -/
def unknownMessage (text : String) : String :=
  "unknown malformed_labels policy " ++ Text.quote text ++ ", expected reject or empty-value"

/-- The policy that a text names, or the complaint that it names none. -/
def ofText (text : String) : Except String LabelPolicy :=
  match ofText? text with
  | some policy => .ok policy
  | none => .error (unknownMessage text)

end LabelPolicy

end PolicyHeader
