import PolicyHeader.Yaml.Fault
import PolicyHeader.Yaml.Spot

/-!
# Block scalars

A block scalar is made of whole lines of one indentation. Its first line says whether the lines are
folded, what becomes of the line breaks at the end, and perhaps how far the lines are indented.
Otherwise the first line that is not empty shows that.
-/

namespace PolicyHeader.Yaml

/-- What becomes of the line breaks at the end of a block scalar. -/
inductive Chomp
  | strip
  | clip
  | keep
  deriving DecidableEq, Repr

/-- The first line of a block scalar. -/
structure BlockHeader where
  chomp : Chomp
  /-- How many columns the lines are indented beyond the parent, if that is said. -/
  indent : Option Nat
  deriving DecidableEq, Repr

namespace BlockHeader

def chompOf? : Char → Option Chomp
  | '-' => some .strip
  | '+' => some .keep
  | _ => none

/-- The header that starts with an indentation digit or has none. -/
def readIndent? (chomp : Chomp) (input : List Spot) : Option (BlockHeader × List Spot) :=
  let c := charAt 0 input
  if c.isDigit then
    if c = '0' then none else some (⟨chomp, some (c.toNat - '0'.toNat)⟩, input.drop 1)
  else some (⟨chomp, none⟩, input)

/-- The header after the mark of the scalar. The sign and the digit may stand in either order. -/
def read? (input : List Spot) : Option (BlockHeader × List Spot) :=
  match chompOf? (charAt 0 input) with
  | some chomp => readIndent? chomp (input.drop 1)
  | none =>
    match readIndent? .clip input with
    | none => none
    | some (⟨_, none⟩, rest) => some (⟨.clip, none⟩, rest)
    | some (⟨_, some indent⟩, rest) =>
      match chompOf? (charAt 0 rest) with
      | some chomp => some (⟨chomp, some indent⟩, rest.drop 1)
      | none => some (⟨.clip, some indent⟩, rest)

end BlockHeader

/-- Whether a column lies in the indentation of a block scalar, which may not be known yet. -/
def inIndent (indent : Option Nat) (column : Nat) : Bool :=
  match indent with
  | none => true
  | some indent => column < indent

/-- The empty lines before the first line of a block scalar. -/
structure BlockStart where
  /-- The largest column that a line reaches with spaces alone. -/
  widest : Nat
  /-- The line breaks, the last one first. -/
  reversed : List Char
  rest : List Spot

/-- Skips the empty lines before the first line of a block scalar. -/
def readBlockStart (indent : Option Nat) (widest : Nat) (reversed : List Char) :
    List Spot → Except Fault BlockStart
  | [] => .ok ⟨widest, reversed, []⟩
  | spot :: rest =>
    if inIndent indent spot.column && spot.char = ' ' then
      readBlockStart indent widest reversed rest
    else
      let widest := max widest spot.column
      if inIndent indent spot.column && spot.char = '\t' then .error .tabIndentation
      else if isBreak spot.char then readBlockStart indent widest (spot.char :: reversed) rest
      else .ok ⟨widest, reversed, spot :: rest⟩

/-- What is pending between two lines of a block scalar. -/
structure BlockGap where
  /-- The line break that ended the last line. -/
  first : Option Char
  /-- The line breaks of the empty lines after it, the last one first. -/
  reversed : List Char
  /-- Whether the last line starts with a space. -/
  afterSpace : Bool

namespace BlockGap

/-- What the gap before a line leaves in the scalar, the last character first. A single line feed is
folded into a space between lines that do not start with a space. -/
def reversedText (gap : BlockGap) (folded beforeSpace : Bool) : List Char :=
  if folded && gap.first = some '\n' && !gap.afterSpace && !beforeSpace then
    if gap.reversed.isEmpty then [' '] else gap.reversed
  else gap.reversed ++ gap.first.toList

/-- What the gap after the last line leaves in the scalar, the last character first. -/
def reversedTail (gap : BlockGap) : Chomp → List Char
  | .strip => []
  | .clip => gap.first.toList
  | .keep => gap.reversed ++ gap.first.toList

end BlockGap

/-- Where the reader of a block scalar stands. -/
inductive BlockState
  /-- Between lines. -/
  | between (gap : BlockGap)
  /-- In a line, which may start with a space. -/
  | inLine (startsWithSpace : Bool)

/-- Reads the lines of a block scalar of a known indentation, after the characters read before, the
last one first. -/
def readBlockLines (folded : Bool) (chomp : Chomp) (indent : Nat) (state : BlockState)
    (reversed : List Char) : List Spot → Except Fault (List Char × List Spot)
  | [] => .ok (reversed.reverse, [])
  | spot :: rest =>
    let c := spot.char
    match state with
    | .inLine startsWithSpace =>
      if c = endMark then .ok (reversed.reverse, spot :: rest)
      else if isBreak c then
        readBlockLines folded chomp indent (.between ⟨some c, [], startsWithSpace⟩) reversed rest
      else readBlockLines folded chomp indent (.inLine startsWithSpace) (c :: reversed) rest
    | .between gap =>
      if spot.column < indent && c = ' ' then
        readBlockLines folded chomp indent (.between gap) reversed rest
      else if spot.column < indent && c = '\t' then .error .tabIndentation
      else if isBreak c then
        readBlockLines folded chomp indent
          (.between { gap with reversed := c :: gap.reversed }) reversed rest
      else if spot.column = indent && c ≠ endMark then
        readBlockLines folded chomp indent (.inLine (isSpace c))
          (c :: (gap.reversedText folded (isSpace c) ++ reversed)) rest
      else .ok ((gap.reversedTail chomp ++ reversed).reverse, spot :: rest)

/-- The text of a block scalar and what follows it. The input starts after the mark of the scalar, and
the margin is the first column inside the parent. -/
def readBlock (folded : Bool) (margin : Nat) (input : List Spot) :
    Except Fault (List Char × List Spot) :=
  match BlockHeader.read? input with
  | none => .error .badBlockHeader
  | some (header, rest) =>
    match endLine? rest with
    | none => .error .badBlockHeader
    | some rest => do
      let indent := header.indent.map (margin - 1 + ·)
      let start ← readBlockStart indent 0 [] rest
      let indent := indent.getD (max start.widest (max margin 1))
      readBlockLines folded header.chomp indent (.between ⟨none, start.reversed, false⟩) []
        start.rest

end PolicyHeader.Yaml
