import PolicyHeader.Yaml.Event
import PolicyHeader.Yaml.Fault
import PolicyHeader.Yaml.Token

/-!
# Goals of a reader of tokens

What is still to be read of a document is a stack of goals. A step takes the first goal, looks at the
tokens in front, and gives events, new goals in its place, and the tokens that are left.
-/

namespace PolicyHeader.Yaml

/-- What is still to be read. -/
inductive Goal
  /-- A node. In a block mapping, a sequence may stand without indentation. -/
  | node (block bareSequence : Bool)
  /-- The rest of the sequence that stands without indentation. -/
  | bareEntries
  | blockEntries
  | blockKeys
  | blockValue
  | flowEntries (first : Bool)
  /-- The key, the value and the end of a mapping of one pair inside a flow sequence. -/
  | pairKey
  | pairValue
  | pairEnd
  | flowKeys (first : Bool)
  | flowValue
  /-- The value after a key without a mark of its own, which is empty. -/
  | flowNoValue
  deriving DecidableEq, Repr

namespace Goal

/-- What a goal counts in the workload. -/
def weight : Goal → Nat
  | .node .. => 2
  | .blockValue => 3
  | .flowEntries true => 4
  | .pairKey => 6
  | .pairValue => 3
  | .pairEnd => 2
  | .flowKeys true => 6
  | .flowValue => 3
  | .flowNoValue => 3
  | _ => 1

end Goal

/-- What some goals count in the workload. -/
def goalWeight : List Goal → Nat
  | [] => 0
  | goal :: goals => goal.weight + goalWeight goals

/-- The workload of some goals and tokens. A token counts eight. -/
def workload (goals : List Goal) (tokens : List Token) : Nat :=
  goalWeight goals + 8 * tokens.length

/-- What one step gives. -/
structure Step where
  events : List (Event (List Char))
  goals : List Goal
  rest : List Token

/-- How a step ends. -/
inductive Outcome
  | step (result : Step)
  /-- The tokens run out. -/
  | short
  | fault (fault : Fault)

end PolicyHeader.Yaml
