import PolicyHeader.Yaml.Event.Goal

/-!
# The grammar of a document

For each goal, the step on the tokens in front. A node that is left out is an empty plain scalar.
-/

namespace PolicyHeader.Yaml

/-! ## Nodes -/

/-- The events of a node that is left out. -/
def emptyNode : List (Event (List Char)) :=
  [.scalar none [] true]

/-- The anchor and the tag of a node, in either order, and the tokens after them. -/
structure Properties where
  anchor : Option (List Char)
  tag : Option (List Char)
  rest : List Token

def Properties.read : List Token → Properties
  | .anchor name :: .tag handle :: rest => ⟨some name, some handle, rest⟩
  | .anchor name :: rest => ⟨some name, none, rest⟩
  | .tag handle :: .anchor name :: rest => ⟨some name, some handle, rest⟩
  | .tag handle :: rest => ⟨none, some handle, rest⟩
  | rest => ⟨none, none, rest⟩

/-- Whether a tag has a handle that is not known. The empty handle needs no definition. -/
def isUnknownTag (handles : List (List Char)) : Option (List Char) → Bool
  | none => false
  | some handle => !handle.isEmpty && !handles.contains handle

/-- A step on a node without content, which is empty if it has an anchor or a tag. -/
def bareStep (properties : Properties) : Outcome :=
  if properties.anchor.isSome || properties.tag.isSome then
    .step ⟨[.scalar properties.anchor [] true], [], properties.rest⟩
  else .fault .missingNode

/-- A step on a node after its properties. -/
def contentStep (block bareSequence : Bool) (properties : Properties) : Outcome :=
  match properties.rest with
  | [] => .short
  | .scalar text plain :: rest => .step ⟨[.scalar properties.anchor text plain], [], rest⟩
  | .flowSequence :: rest =>
    .step ⟨[.sequenceStart properties.anchor], [.flowEntries true], rest⟩
  | .flowMapping :: rest => .step ⟨[.mappingStart properties.anchor], [.flowKeys true], rest⟩
  | .blockEntry :: _ =>
    if bareSequence then
      .step ⟨[.sequenceStart properties.anchor], [.bareEntries], properties.rest⟩
    else bareStep properties
  | .blockSequence :: rest =>
    if block then .step ⟨[.sequenceStart properties.anchor], [.blockEntries], rest⟩
    else bareStep properties
  | .blockMapping :: rest =>
    if block then .step ⟨[.mappingStart properties.anchor], [.blockKeys], rest⟩
    else bareStep properties
  | _ => bareStep properties

/-- A step on a node, where some tag handles are known. -/
def nodeStep (handles : List (List Char)) (block bareSequence : Bool) (tokens : List Token) :
    Outcome :=
  match tokens with
  | .alias name :: rest => .step ⟨[.alias name], [], rest⟩
  | _ =>
    let properties := Properties.read tokens
    if properties.rest.isEmpty then .short
    else if isUnknownTag handles properties.tag then
      .fault (.unknownTagHandle (String.ofList (properties.tag.getD [])))
    else contentStep block bareSequence properties

/-- A node and then a goal, unless the node is left out before the next token. -/
def nodeThen (block bareSequence : Bool) (isOmitted : Token → Bool) (goal : Goal)
    (rest : List Token) : Outcome :=
  match rest with
  | [] => .short
  | next :: _ =>
    if isOmitted next then .step ⟨emptyNode, [goal], rest⟩
    else .step ⟨[], [.node block bareSequence, goal], rest⟩

/-! ## Block collections -/

/-- Whether a node is left out before a token in a block mapping. -/
def endsBlockPart : Token → Bool
  | .key | .value | .blockEnd => true
  | _ => false

def bareEntriesStep (token : Token) (rest : List Token) : Outcome :=
  match token with
  | .blockEntry =>
    nodeThen true false (fun next => next = .blockEntry || endsBlockPart next) .bareEntries rest
  | _ => .step ⟨[.sequenceEnd], [], token :: rest⟩

def blockEntriesStep (token : Token) (rest : List Token) : Outcome :=
  match token with
  | .blockEntry =>
    nodeThen true false (fun next => next = .blockEntry || next = .blockEnd) .blockEntries rest
  | .blockEnd => .step ⟨[.sequenceEnd], [], rest⟩
  | _ => .fault .missingEntry

def blockKeysStep (token : Token) (rest : List Token) : Outcome :=
  match token with
  | .key => nodeThen true true endsBlockPart .blockValue rest
  | .blockEnd => .step ⟨[.mappingEnd], [], rest⟩
  | _ => .fault .missingKey

def blockValueStep (token : Token) (rest : List Token) : Outcome :=
  match token with
  | .value => nodeThen true true endsBlockPart .blockKeys rest
  | _ => .step ⟨emptyNode, [.blockKeys], token :: rest⟩

/-! ## Flow collections -/

/-- Whether a node is left out before a token in a flow collection with an end token. -/
def endsFlowPart (last token : Token) : Bool :=
  token = .flowEntry || token = last

/-- A step on an entry of a flow sequence or on its end. -/
def flowEntryStep (token : Token) (rest : List Token) : Outcome :=
  match token with
  | .key => .step ⟨[.mappingStart none], [.pairKey, .flowEntries false], rest⟩
  | .flowSequenceEnd => .step ⟨[.sequenceEnd], [], rest⟩
  | _ => .step ⟨[], [.node false false, .flowEntries false], token :: rest⟩

/-- A step on a key of a flow mapping or on its end. -/
def flowKeyStep (token : Token) (rest : List Token) : Outcome :=
  match token with
  | .flowMappingEnd => .step ⟨[.mappingEnd], [], rest⟩
  | .key =>
    nodeThen false false (fun next => next = .value || endsFlowPart .flowMappingEnd next) .flowValue
      rest
  | _ => .step ⟨[], [.node false false, .flowNoValue], token :: rest⟩

/-- A step after an item of a flow collection: on its end, or on the next item after a comma. -/
def separatorStep (item : Token → List Token → Outcome) (last token : Token) (rest : List Token) :
    Outcome :=
  if token = last then item token rest
  else if token = .flowEntry then
    match rest with
    | [] => .short
    | next :: rest => item next rest
  else .fault .missingSeparator

/-- A key that is left out takes the token in its place with it. -/
def pairKeyStep (token : Token) (rest : List Token) : Outcome :=
  if token = .value || endsFlowPart .flowSequenceEnd token then
    .step ⟨emptyNode, [.pairValue], rest⟩
  else .step ⟨[], [.node false false, .pairValue], token :: rest⟩

def pairValueStep (token : Token) (rest : List Token) : Outcome :=
  match token with
  | .value => nodeThen false false (endsFlowPart .flowSequenceEnd) .pairEnd rest
  | _ => .step ⟨emptyNode, [.pairEnd], token :: rest⟩

def flowValueStep (token : Token) (rest : List Token) : Outcome :=
  match token with
  | .value => nodeThen false false (endsFlowPart .flowMappingEnd) (.flowKeys false) rest
  | _ => .step ⟨emptyNode, [.flowKeys false], token :: rest⟩

/-! ## Steps -/

/-- One step towards a goal, where some tag handles are known. -/
def Goal.step (handles : List (List Char)) (goal : Goal) : List Token → Outcome
  | [] => .short
  | token :: rest =>
    match goal with
    | .node block bareSequence => nodeStep handles block bareSequence (token :: rest)
    | .bareEntries => bareEntriesStep token rest
    | .blockEntries => blockEntriesStep token rest
    | .blockKeys => blockKeysStep token rest
    | .blockValue => blockValueStep token rest
    | .flowEntries true => flowEntryStep token rest
    | .flowEntries false => separatorStep flowEntryStep .flowSequenceEnd token rest
    | .pairKey => pairKeyStep token rest
    | .pairValue => pairValueStep token rest
    | .pairEnd => .step ⟨[.mappingEnd], [], token :: rest⟩
    | .flowKeys true => flowKeyStep token rest
    | .flowKeys false => separatorStep flowKeyStep .flowMappingEnd token rest
    | .flowValue => flowValueStep token rest
    | .flowNoValue => .step ⟨emptyNode, [.flowKeys false], token :: rest⟩

end PolicyHeader.Yaml
