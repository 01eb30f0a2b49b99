import PolicyHeader.Text.Pieces

/-!
# Label requirements

A requirement names a label key, an operator such as `In` or `Exists`, and the values that the operator
speaks of. Neither key nor operator is checked.
-/

namespace PolicyHeader

structure Requirement where
  key : String
  operator : String
  values : List String
  deriving DecidableEq, Repr

namespace Requirement

/-- The values between the commas of a word. -/
def valuesOfWord (word : String) : List String :=
  (word.toList.splitOn ',').map String.ofList

/-- The requirement written by a key, an operator and, as one word, its values. -/
def ofWords? : List String → Option Requirement
  | [key, operator] => some ⟨key, operator, []⟩
  | [key, operator, values] => some ⟨key, operator, valuesOfWord values⟩
  | _ => none

def text (requirement : Requirement) : String :=
  requirement.key ++ " " ++ requirement.operator ++
    if requirement.values.isEmpty then "" else " " ++ ",".intercalate requirement.values

end Requirement

end PolicyHeader
