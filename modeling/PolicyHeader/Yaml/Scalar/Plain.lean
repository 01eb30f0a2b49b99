import PolicyHeader.Yaml.Fault
import PolicyHeader.Yaml.Scalar.Gap

/-!
# Plain scalars

A plain scalar stands without quotes. It ends before a colon that a space follows, before a comment,
before a line that is not indented enough, and before a document mark. In a flow collection the commas
and brackets end it too.
-/

namespace PolicyHeader.Yaml

/-- A plain scalar, whether a line break stands after it, and the input after that. -/
structure PlainEnd where
  text : List Char
  hasBreak : Bool
  rest : List Spot

/-- The marks of flow collections. -/
def isFlowMark (c : Char) : Bool :=
  c = ',' || c = '[' || c = ']' || c = '\x7b' || c = '\x7d'

/-- Whether a character that follows a gap starts something else than a word of the scalar. -/
def endsAfterGap (flow : Bool) (margin : Nat) (spot : Spot) (rest : List Spot) : Bool :=
  (!flow && spot.column < margin) || atDocumentMark (spot :: rest) || spot.char = '#'

/-- Whether a scalar ends before a character, whether or not a gap stands before it. -/
def endsBefore (flow : Bool) (c : Char) (rest : List Spot) : Bool :=
  (c = ':' && isSpaceOrEnd (charAt 0 rest)) || (flow && isFlowMark c)

/-- Reads a plain scalar to its end, after a gap that follows the characters read before, the last one
first. The margin is the first column that the lines of the scalar may start at. -/
def readPlainFrom (flow : Bool) (margin : Nat) (gap : Gap) (reversed : List Char) :
    List Spot → Except Fault PlainEnd
  | [] => .ok ⟨reversed.reverse, gap.hasBreak, []⟩
  | spot :: rest =>
    let c := spot.char
    if isBreak c then readPlainFrom flow margin (gap.addBreak c) reversed rest
    else if isSpace c then
      if gap.hasBreak && spot.column < margin && c = '\t' then .error .tabIndentation
      else readPlainFrom flow margin (gap.addSpace c) reversed rest
    else if c = endMark || (!gap.isEmpty && endsAfterGap flow margin spot rest) then
      .ok ⟨reversed.reverse, gap.hasBreak, spot :: rest⟩
    else if flow && c = ':' && (isFlowMark (charAt 0 rest) || charAt 0 rest = '?') then
      .error .colonInFlow
    else if endsBefore flow c rest then
      .ok ⟨reversed.reverse, gap.hasBreak, spot :: rest⟩
    else readPlainFrom flow margin .empty (c :: (gap.reversedText ++ reversed)) rest

/-- The plain scalar that starts with a character. -/
def readPlain (flow : Bool) (margin : Nat) (first : Char) (rest : List Spot) :
    Except Fault PlainEnd :=
  readPlainFrom flow margin .empty [first] rest

end PolicyHeader.Yaml
