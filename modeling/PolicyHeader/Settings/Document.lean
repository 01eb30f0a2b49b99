import PolicyHeader.Settings
import PolicyHeader.Yaml.Document

/-!
# Settings documents

A settings document is a YAML stream of at most one document, a mapping. The value of one key names
the label policy, and other keys are passed over with their values. A stream without a document and an
empty document give the standard settings. The document is read in order, so a text that names no
policy is found before any fault after it.
-/

namespace PolicyHeader

namespace Settings

/-- Why a document gives no settings. -/
inductive DocumentError
  | unknownPolicy (text : String)
  | fault (fault : Yaml.Fault)
  /-- The document is no mapping. -/
  | noMapping
  /-- A key is no scalar. -/
  | badKey
  | repeatedKey
  /-- The label policy is no scalar. -/
  | badPolicy
  /-- Something stands after the document. -/
  | followed
  deriving DecidableEq, Repr

namespace DocumentError

def message : DocumentError → String
  | .unknownPolicy text => LabelPolicy.unknownMessage text
  | .fault f => f.message
  | .noMapping => "the document is no mapping"
  | .badKey => "a key is no scalar"
  | .repeatedKey => "the key " ++ labelPolicyKey ++ " is repeated"
  | .badPolicy => "the value of " ++ labelPolicyKey ++ " is no scalar"
  | .followed => "something stands after the document"

end DocumentError

open Yaml (Document Event)

/-- The text of a scalar or of an alias of one. -/
def scalarText? (document : Document) : Event Nat → Option String
  | .scalar _ text _ => some (String.ofList text)
  | .alias number =>
    match document.target? number with
    | some (.scalar _ text _) => some (String.ofList text)
    | _ => none
  | _ => none

/-- Where the reader of a mapping stands. -/
inductive Place
  /-- Before a key or the end. -/
  | key
  /-- Before the name of the label policy. -/
  | policy
  /-- Before or in a value that is passed over, inside some open collections. -/
  | value (depth : Nat)
  deriving DecidableEq, Repr

/-- Where the reader stands after an event of a value that is passed over. -/
def placeAfter (depth : Nat) (event : Event Nat) : Place :=
  let depth :=
    match event with
    | .sequenceStart _ | .mappingStart _ => depth + 1
    | .sequenceEnd | .mappingEnd => depth - 1
    | _ => depth
  if depth = 0 then .key else .value depth

/-- Reads a mapping to its end, after a label policy that may have been found. -/
def readMapping (document : Document) (found : Option LabelPolicy) :
    Place → List (Event Nat) → Except DocumentError (Option LabelPolicy)
  | _, [] => .error (.fault (document.fault.getD .missingNode))
  | .key, .mappingEnd :: _ => .ok found
  | .key, event :: rest =>
    match scalarText? document event with
    | none => .error .badKey
    | some key =>
      if key = labelPolicyKey then
        if found.isSome then .error .repeatedKey else readMapping document found .policy rest
      else readMapping document found (.value 0) rest
  | .policy, event :: rest =>
    match scalarText? document event with
    | none => .error .badPolicy
    | some text =>
      match LabelPolicy.ofText? text with
      | none => .error (.unknownPolicy text)
      | some policy => readMapping document (some policy) .key rest
  | .value depth, event :: rest => readMapping document found (placeAfter depth event) rest

/-- The label policy that the events of a document give. -/
def readEvents (document : Document) : Except DocumentError (Option LabelPolicy) :=
  match document.events with
  | .mappingStart _ :: rest => readMapping document none .key rest
  | .scalar _ [] true :: _ => .ok none
  | [] =>
    match document.fault with
    | some fault => .error (.fault fault)
    | none => .ok none
  | _ => .error .noMapping

/-- The settings that a document gives. -/
def ofDocument (document : Document) : Except DocumentError Settings := do
  let policy ← readEvents document
  match document.fault with
  | some fault => .error (.fault fault)
  | none =>
    if document.followed then .error .followed else .ok ⟨policy.getD standard.labelPolicy⟩

/-- The settings that a text gives. A blank text is no document at all. -/
def ofText (text : String) : Except DocumentError Settings :=
  if Text.isAllBlank text.toList then .ok standard else ofDocument (.ofText text)

end Settings

end PolicyHeader
