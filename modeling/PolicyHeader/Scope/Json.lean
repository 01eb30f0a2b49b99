import PolicyHeader.Json.Decode
import PolicyHeader.Scope.Basic

/-!
# Scopes as JSON

The JSON form of a scope and of its parts. A requirement without values has no member for them.
Decoding keeps kinds and requirements as they are given, without sorting or merging.
-/

namespace PolicyHeader

open Json (DecodeError Decoder Fields decodeString decodeList decodeRecord)

def GroupKinds.toJson (entry : GroupKinds) : Json :=
  .object [("apiGroup", .string entry.group), ("kinds", .array (entry.kinds.map .string))]

def GroupKinds.ofJson : Decoder GroupKinds :=
  decodeRecord ["apiGroup", "kinds"] fun fields => do
    let group ← fields.required "apiGroup" decodeString
    let kinds ← fields.required "kinds" (decodeList decodeString)
    pure ⟨group, kinds⟩

def Kinds.toJson (kinds : Kinds) : Json :=
  .array (kinds.map GroupKinds.toJson)

def Kinds.ofJson : Decoder Kinds :=
  decodeList GroupKinds.ofJson

def Labels.toJson (labels : Labels) : Json :=
  .object (labels.entries.map fun entry => (entry.1, .string entry.2))

/-- Adds the labels that the members of an object give, the last one of each key. -/
def Labels.insertMembers (labels : Labels) : List (String × Json) → Except DecodeError Labels
  | [] => .ok labels
  | (key, value) :: rest => do
    let value ← decodeString value
    (labels.insert key value).insertMembers rest

def Labels.ofJson : Decoder Labels
  | .object members => Labels.empty.insertMembers members
  | _ => .error (.shape "an object")

def Requirement.toJson (requirement : Requirement) : Json :=
  .object
    ([("key", .string requirement.key), ("operator", .string requirement.operator)] ++
      if requirement.values.isEmpty then []
      else [("values", .array (requirement.values.map .string))])

def Requirement.ofJson : Decoder Requirement :=
  decodeRecord ["key", "operator", "values"] fun fields => do
    let key ← fields.required "key" decodeString
    let operator ← fields.required "operator" decodeString
    let values ← fields.optional "values" (decodeList decodeString) []
    pure ⟨key, operator, values⟩

def Scope.toJson (scope : Scope) : Json :=
  .object
    [("kinds", scope.kinds.toJson), ("matchLabels", scope.labels.toJson),
      ("matchExpressions", .array (scope.requirements.map Requirement.toJson))]

def Scope.ofJson : Decoder Scope :=
  decodeRecord ["kinds", "matchLabels", "matchExpressions"] fun fields => do
    let kinds ← fields.optional "kinds" Kinds.ofJson []
    let labels ← fields.optional "matchLabels" Labels.ofJson .empty
    let requirements ← fields.optional "matchExpressions" (decodeList Requirement.ofJson) []
    pure ⟨kinds, labels, requirements⟩

end PolicyHeader
