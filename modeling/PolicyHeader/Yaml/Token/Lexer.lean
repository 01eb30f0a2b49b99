import PolicyHeader.Yaml.Scalar.Block
import PolicyHeader.Yaml.Scalar.Plain
import PolicyHeader.Yaml.Scalar.Quoted
import PolicyHeader.Yaml.Token.Property

/-!
# From spots to tokens

A lexer takes one token after another off the input. It keeps the margins of the open block
collections, so that a line that is indented less closes them. A key without a mark of its own is
known for a key only by the colon after it, so the lexer keeps the place of each node that may yet
prove to be a key. The tokens from there on are held back until that is decided.
-/

namespace PolicyHeader.Yaml

/-- A node that is a key if a colon follows it. -/
structure KeyCandidate where
  /-- How many tokens stand before the node. -/
  number : Nat
  index : Nat
  line : Nat
  column : Nat
  /-- Whether the node can be nothing else than a key. -/
  required : Bool
  deriving Repr

/-- The state of a lexer. -/
structure Lexer where
  input : List Spot
  /-- The first column inside each open block collection, the innermost one first. -/
  margins : List Nat
  /-- The key candidate of the innermost collection. -/
  candidate : Option KeyCandidate
  /-- For each open flow collection the key candidate outside it, the innermost one first. -/
  outer : List (Option KeyCandidate)
  /-- Whether a key may start here. -/
  keyAllowed : Bool
  /-- The tokens that are settled, the last one first. -/
  settled : List Token
  /-- The tokens that are held back. -/
  held : List Token
  /-- How many tokens are settled. -/
  count : Nat
  /-- Whether the end of the stream is reached. -/
  ended : Bool

namespace Lexer

/-- The lexer at the start of a stream. -/
def start (input : List Spot) : Lexer where
  input := input
  margins := []
  candidate := none
  outer := []
  keyAllowed := true
  settled := []
  held := []
  count := 0
  ended := false

def char (lexer : Lexer) : Char :=
  charAt 0 lexer.input

/-- The next spot. Behind the last one there is another end mark. -/
def spot (lexer : Lexer) : Spot :=
  lexer.input.headD ⟨endMark, 0, 0, 0⟩

def inFlow (lexer : Lexer) : Bool :=
  !lexer.outer.isEmpty

/-- The first column inside the innermost block collection. -/
def margin (lexer : Lexer) : Nat :=
  lexer.margins.headD 0

/-- Adds a token after the others. -/
def push (lexer : Lexer) (token : Token) : Lexer :=
  { lexer with held := lexer.held ++ [token] }

/-- Adds a token that is one character long. -/
def pushMark (lexer : Lexer) (token : Token) : Lexer :=
  { lexer.push token with input := lexer.input.drop 1 }

/-- Adds a token before the one with a number. -/
def insertAt (lexer : Lexer) (number : Nat) (token : Token) : Lexer :=
  { lexer with held := lexer.held.insertIdx (number - lexer.count) token }

/-- Closes the block collections whose content starts beyond a margin. -/
def closeBlocks (lexer : Lexer) (margin : Nat) : Lexer :=
  if lexer.inFlow then lexer
  else
    { lexer with
      margins := lexer.margins.dropWhile (margin < ·)
      held := lexer.held ++ (lexer.margins.takeWhile (margin < ·)).map fun _ => .blockEnd }

/-- Whether a block collection has to be opened for an item at a column. -/
def opensBlock (lexer : Lexer) (column : Nat) : Bool :=
  !lexer.inFlow && lexer.margin ≤ column

/-- Opens a block collection for an item at the next spot, unless it is open. -/
def openBlock (lexer : Lexer) (token : Token) : Lexer :=
  let column := lexer.spot.column
  if lexer.opensBlock column then
    { lexer.push token with margins := (column + 1) :: lexer.margins }
  else lexer

/-- Whether a colon can no longer follow a key candidate. -/
def isStale (lexer : Lexer) (candidate : KeyCandidate) : Bool :=
  candidate.line < lexer.spot.line || candidate.index + 1024 < lexer.spot.index

/-- Drops the key candidates that a colon can no longer follow. -/
def dropStale (lexer : Lexer) : Except Fault Lexer :=
  let isMissing (candidate : KeyCandidate) := candidate.required && lexer.isStale candidate
  if lexer.candidate.any isMissing || lexer.outer.any (·.any isMissing) then .error .missingColon
  else
    let isFresh (candidate : KeyCandidate) := !lexer.isStale candidate
    .ok { lexer with
      candidate := lexer.candidate.filter isFresh, outer := lexer.outer.map (·.filter isFresh) }

/-- Drops the key candidate of the innermost collection. -/
def dropCandidate (lexer : Lexer) : Except Fault Lexer :=
  match lexer.candidate with
  | some ⟨_, _, _, _, true⟩ => .error .missingColon
  | _ => .ok { lexer with candidate := none }

/-- Notes that the node at the next spot may be a key. -/
def saveCandidate (lexer : Lexer) : Except Fault Lexer :=
  if lexer.keyAllowed then do
    let spot := lexer.spot
    let lexer ← lexer.dropCandidate
    return { lexer with
      candidate := some
        { number := lexer.count + lexer.held.length
          index := spot.index
          line := spot.line
          column := spot.column
          required := !lexer.inFlow && lexer.margin == spot.column + 1 } }
  else .ok lexer

/-- Skips spaces, comments and line breaks. Tabs count as spaces except where they could be taken for
indentation. -/
def skipGapFrom (flow keyAllowed inComment : Bool) : List Spot → Bool × List Spot
  | [] => (keyAllowed, [])
  | spot :: rest =>
    let c := spot.char
    if isBreak c then skipGapFrom flow (keyAllowed || !flow) false rest
    else if c = endMark then (keyAllowed, spot :: rest)
    else if inComment then skipGapFrom flow keyAllowed true rest
    else if c = ' ' || (c = '\t' && (flow || !keyAllowed)) || (c = '\ufeff' && spot.column = 0) then
      skipGapFrom flow keyAllowed false rest
    else if c = '#' then skipGapFrom flow keyAllowed true rest
    else (keyAllowed, spot :: rest)

def skipGap (lexer : Lexer) : Lexer :=
  let (keyAllowed, input) := skipGapFrom lexer.inFlow lexer.keyAllowed false lexer.input
  { lexer with keyAllowed := keyAllowed, input := input }

/-- The end of the stream counts as the start of a line. -/
def takeEnd (lexer : Lexer) : Except Fault Lexer := do
  let spot := lexer.spot
  let line := if spot.column = 0 then spot.line else spot.line + 1
  let lexer := { lexer with input := [{ spot with line := line, column := 0 }] }
  let lexer ← (lexer.closeBlocks 0).dropCandidate
  return { lexer.push .streamEnd with keyAllowed := false, ended := true }

def takeDirective (lexer : Lexer) : Except Fault Lexer := do
  let lexer ← (lexer.closeBlocks 0).dropCandidate
  let (token, rest) ← readDirective (lexer.input.drop 1)
  return { lexer.push token with keyAllowed := false, input := rest }

def takeDocumentMark (lexer : Lexer) : Except Fault Lexer := do
  let token := if lexer.char = '-' then .documentStart else .documentEnd
  let lexer ← (lexer.closeBlocks 0).dropCandidate
  return { lexer.push token with keyAllowed := false, input := lexer.input.drop 3 }

def takeFlowStart (lexer : Lexer) (token : Token) : Except Fault Lexer := do
  let lexer ← lexer.saveCandidate
  return { lexer.pushMark token with
    candidate := none, outer := lexer.candidate :: lexer.outer, keyAllowed := true }

def takeFlowEnd (lexer : Lexer) (token : Token) : Except Fault Lexer := do
  let lexer ← lexer.dropCandidate
  return { lexer.pushMark token with
    candidate := lexer.outer.headD none, outer := lexer.outer.tail, keyAllowed := false }

def takeFlowEntry (lexer : Lexer) : Except Fault Lexer := do
  let lexer ← lexer.dropCandidate
  return { lexer.pushMark .flowEntry with keyAllowed := true }

def takeBlockEntry (lexer : Lexer) : Except Fault Lexer := do
  if !lexer.inFlow && !lexer.keyAllowed then .error .misplacedMark
  else
    let lexer ← (lexer.openBlock .blockSequence).dropCandidate
    return { lexer.pushMark .blockEntry with keyAllowed := true }

def takeKey (lexer : Lexer) : Except Fault Lexer := do
  if !lexer.inFlow && !lexer.keyAllowed then .error .misplacedMark
  else
    let lexer ← (lexer.openBlock .blockMapping).dropCandidate
    return { lexer.pushMark .key with keyAllowed := !lexer.inFlow }

/-- A colon makes the key candidate a key, and opens a block mapping before it if none is open
there. -/
def takeValue (lexer : Lexer) : Except Fault Lexer :=
  match lexer.candidate with
  | some candidate =>
    let keyed := lexer.insertAt candidate.number .key
    let opened :=
      if lexer.opensBlock candidate.column then
        { keyed.insertAt candidate.number .blockMapping with
          margins := (candidate.column + 1) :: lexer.margins }
      else keyed
    .ok { opened.pushMark .value with candidate := none, keyAllowed := false }
  | none =>
    if !lexer.inFlow && !lexer.keyAllowed then .error .misplacedMark
    else
      let lexer := lexer.openBlock .blockMapping
      .ok { lexer.pushMark .value with keyAllowed := !lexer.inFlow }

/-- Takes a node, or the start of one, that may be a key. -/
def takeNode (lexer : Lexer) (read : List Spot → Except Fault (Token × List Spot)) :
    Except Fault Lexer := do
  let lexer ← lexer.saveCandidate
  let (token, rest) ← read lexer.input
  return { lexer.push token with keyAllowed := false, input := rest }

def takeName (lexer : Lexer) (token : List Char → Token) : Except Fault Lexer :=
  lexer.takeNode fun input => do
    let (name, rest) ← readName (input.drop 1)
    return (token name, rest)

def takeQuoted (lexer : Lexer) (style : QuoteStyle) : Except Fault Lexer :=
  lexer.takeNode fun input => do
    let (text, rest) ← readQuoted style (input.drop 1)
    return (.scalar text false, rest)

def takeBlock (lexer : Lexer) (folded : Bool) : Except Fault Lexer := do
  let lexer ← lexer.dropCandidate
  let (text, rest) ← readBlock folded lexer.margin (lexer.input.drop 1)
  return { lexer.push (.scalar text false) with keyAllowed := true, input := rest }

def takePlain (lexer : Lexer) : Except Fault Lexer := do
  let lexer ← lexer.saveCandidate
  let plain ← readPlain lexer.inFlow lexer.margin lexer.char (lexer.input.drop 1)
  return { lexer.push (.scalar plain.text true) with
    keyAllowed := plain.hasBreak, input := plain.rest }

/-- Whether a mark is followed by a space or stands in a flow collection. -/
def isMark (lexer : Lexer) (mark : Char) : Bool :=
  lexer.char = mark && (lexer.inFlow || isSpaceOrEnd (charAt 1 lexer.input))

/-- The marks that start no plain scalar. -/
def isIndicator (c : Char) : Bool :=
  isFlowMark c || c = '-' || c = '?' || c = ':' || c = '#' || c = '&' || c = '*' || c = '!' ||
    c = '|' || c = '>' || c = '\x27' || c = '\x22' || c = '%' || c = '@' || c = '\x60'

/-- Whether a plain scalar starts here. Some marks may start one if no space follows. -/
def startsPlain (lexer : Lexer) : Bool :=
  let c := lexer.char
  let next := charAt 1 lexer.input
  (!isSpaceOrEnd c && !isIndicator c) || (c = '-' && !isSpace next) ||
    (!lexer.inFlow && (c = '?' || c = ':') && !isSpaceOrEnd next)

/-- Takes the token at the next spot. -/
def takeToken (lexer : Lexer) : Except Fault Lexer :=
  let c := lexer.char
  if c = endMark then lexer.takeEnd
  else if lexer.spot.column = 0 && c = '%' then lexer.takeDirective
  else if atDocumentMark lexer.input then lexer.takeDocumentMark
  else if c = '[' then lexer.takeFlowStart .flowSequence
  else if c = '\x7b' then lexer.takeFlowStart .flowMapping
  else if c = ']' then lexer.takeFlowEnd .flowSequenceEnd
  else if c = '\x7d' then lexer.takeFlowEnd .flowMappingEnd
  else if c = ',' then lexer.takeFlowEntry
  else if c = '-' && isSpaceOrEnd (charAt 1 lexer.input) then lexer.takeBlockEntry
  else if lexer.isMark '?' then lexer.takeKey
  else if lexer.isMark ':' then lexer.takeValue
  else if c = '*' then lexer.takeName .alias
  else if c = '&' then lexer.takeName .anchor
  else if c = '!' then lexer.takeNode (readTag lexer.inFlow)
  else if c = '|' && !lexer.inFlow then lexer.takeBlock false
  else if c = '>' && !lexer.inFlow then lexer.takeBlock true
  else if c = '\x27' then lexer.takeQuoted .single
  else if c = '\x22' then lexer.takeQuoted .double
  else if lexer.startsPlain then lexer.takePlain
  else .error .strayCharacter

/-- Settles the tokens before the first key candidate. -/
def settle (lexer : Lexer) : Lexer :=
  let limit :=
    (lexer.candidate :: lexer.outer).foldl
      (fun limit candidate => (candidate.map KeyCandidate.number).elim limit (min limit))
      (lexer.count + lexer.held.length)
  let ready := lexer.held.take (limit - lexer.count)
  { lexer with
    settled := ready.reverse ++ lexer.settled
    held := lexer.held.drop ready.length
    count := lexer.count + ready.length }

/-- Takes the next token, and settles what can be settled. A fault after that comes with the lexer
that took the token. -/
def next (lexer : Lexer) : Except Fault Lexer := do
  let lexer ← lexer.skipGap.dropStale
  let lexer ← (lexer.closeBlocks (lexer.spot.column + 1)).takeToken
  let lexer ← lexer.dropStale
  return lexer.settle

/-- Takes tokens to the end of the stream, at most a number of times. A fault leaves the tokens that
were settled before it. -/
def run : Nat → Lexer → List Token × Option Fault
  | 0, lexer => (lexer.settled.reverse, none)
  | steps + 1, lexer =>
    if lexer.ended then (lexer.settled.reverse, none)
    else
      match lexer.next with
      | .ok lexer => lexer.run steps
      | .error fault => (lexer.settled.reverse, some fault)

end Lexer

/-- The tokens of a text, and the fault that ends them if there is one. Every step takes at least one
character off the input, the end mark included. -/
def Token.ofText (text : List Char) : List Token × Option Fault :=
  if text.all isAllowed then
    let input := spots text
    (Lexer.start input).run input.length
  else ([], some .forbiddenCharacter)

end PolicyHeader.Yaml
