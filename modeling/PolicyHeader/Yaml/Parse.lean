import PolicyHeader.Yaml.Event.Workload

/-!
# The events of the first document

The tokens of a stream are read up to the end of the first document or to the first fault. The events
before a fault are kept.
-/

namespace PolicyHeader.Yaml

/-- What ends the events of a document. -/
inductive Ending
  /-- The document is complete, and these tokens follow it. -/
  | complete (rest : List Token)
  /-- The tokens run out. -/
  | short
  | fault (fault : Fault)

/-- Events and what ends them. -/
structure Parse where
  events : List (Event (List Char))
  ending : Ending

/-- Reads towards some goals, where some tag handles are known. -/
def parseGoals (handles : List (List Char)) (goals : List Goal) (tokens : List Token) : Parse :=
  match goals with
  | [] => ⟨[], .complete tokens⟩
  | goal :: goals =>
    match _h : goal.step handles tokens with
    | .short => ⟨[], .short⟩
    | .fault fault => ⟨[], .fault fault⟩
    | .step result =>
      let parse := parseGoals handles (result.goals ++ goals) result.rest
      ⟨result.events ++ parse.events, parse.ending⟩
termination_by workload goals tokens
decreasing_by
  have hlt := step_below handles goal tokens _ (by assumption)
  simp only [workload, goalWeight, goalWeight_append] at hlt ⊢
  omega

/-- The directives before a document. -/
structure Directives where
  version : Bool
  handles : List (List Char)

/-- The handles that need no directive. -/
def standardHandles : List (List Char) :=
  [['!'], ['!', '!']]

/-- Reads directives after others. Only the versions 1.1 and 1.2 are known. -/
def readDirectives (directives : Directives) :
    List Token → Except Fault (Directives × List Token)
  | .version major minor :: rest =>
    if directives.version then .error .repeatedDirective
    else if major = 1 ∧ (minor = 1 ∨ minor = 2) then
      readDirectives { directives with version := true } rest
    else .error .unsupportedVersion
  | .tagHandle handle :: rest =>
    if directives.handles.contains handle then .error .repeatedDirective
    else readDirectives { directives with handles := handle :: directives.handles } rest
  | rest => .ok (directives, rest)

/-- Whether a document that is opened by a mark has no content before a token. -/
def endsDocument : Token → Bool
  | .version .. | .tagHandle _ | .documentStart | .documentEnd | .streamEnd => true
  | _ => false

/-- Reads a document that is opened by directives or a mark. -/
def parseOpened (tokens : List Token) : Parse :=
  match readDirectives ⟨false, []⟩ tokens with
  | .error fault => ⟨[], .fault fault⟩
  | .ok (_, []) => ⟨[], .short⟩
  | .ok (directives, .documentStart :: rest) =>
    match rest with
    | [] => ⟨[], .short⟩
    | token :: _ =>
      if endsDocument token then ⟨emptyNode, .complete rest⟩
      else parseGoals (directives.handles ++ standardHandles) [.node true false] rest
  | .ok _ => ⟨[], .fault .missingDocumentStart⟩

/-- Reads the first document of a stream, which has no events if the stream has no document. -/
def parseFirst (tokens : List Token) : Parse :=
  match tokens with
  | [] => ⟨[], .short⟩
  | .streamEnd :: _ => ⟨[], .complete tokens⟩
  | .version .. :: _ | .tagHandle _ :: _ | .documentStart :: _ => parseOpened tokens
  | _ => parseGoals standardHandles [.node true false] tokens

end PolicyHeader.Yaml
