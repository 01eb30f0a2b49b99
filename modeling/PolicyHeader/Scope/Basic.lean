import PolicyHeader.Tag
import PolicyHeader.Scope.Kinds
import PolicyHeader.Scope.Labels
import PolicyHeader.Scope.Requirement

/-!
# Scopes

A scope says which resources a policy applies to: by kind, by label, and by requirements on labels. It
can be written as annotation lines.
-/

namespace PolicyHeader

structure Scope where
  kinds : Kinds
  labels : Labels
  requirements : List Requirement
  deriving DecidableEq

namespace Scope

/-- The scope that asks for nothing. -/
def empty : Scope :=
  ⟨[], .empty, []⟩

def isEmpty (scope : Scope) : Bool :=
  scope.kinds.isEmpty && scope.labels.isEmpty && scope.requirements.isEmpty

/-- The annotation lines of a scope: one for its kinds and one for its labels if there are any, and one
for each requirement. -/
def headerLines (scope : Scope) : List String :=
  (if scope.kinds.isEmpty then [] else [Tag.kinds ++ " " ++ scope.kinds.text]) ++
  (if scope.labels.isEmpty then [] else [Tag.labels ++ " " ++ scope.labels.text]) ++
  scope.requirements.map fun requirement => Tag.requirement ++ " " ++ requirement.text

end Scope

end PolicyHeader
