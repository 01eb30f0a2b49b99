import PolicyHeader.Json
import PolicyHeader.LabelPolicy

/-!
# Decoding JSON values

The pieces that decoders are made of. A record is an object, whose members are found by name whatever
their order and whatever other members there are, or an array of the fields in their order, of which
the last ones may be left out. Nothing is converted: a number is no string, and null stands for
nothing else.
-/

namespace PolicyHeader.Json

/-- Why a value cannot be decoded. -/
inductive DecodeError
  /-- The value is not of the wanted shape. -/
  | shape (wanted : String)
  /-- A record lacks a field that it has to have. -/
  | missing (field : String)
  /-- An array has more elements than the record has fields. -/
  | surplus
  /-- A text should name a label policy but does not. -/
  | unknownPolicy (text : String)
  deriving DecidableEq, Repr

namespace DecodeError

def message : DecodeError → String
  | .shape wanted => "expected " ++ wanted
  | .missing field => "missing field " ++ field
  | .surplus => "too many elements"
  | .unknownPolicy text => LabelPolicy.unknownMessage text

end DecodeError

variable {α : Type}

/-- A decoder of values of some type. -/
abbrev Decoder (α : Type) := Json → Except DecodeError α

def decodeString : Decoder String
  | .string value => .ok value
  | _ => .error (.shape "a string")

def decodeList (decode : Decoder α) : Decoder (List α)
  | .array items => items.mapM decode
  | _ => .error (.shape "an array")

/-- The fields of a record that are there. -/
abbrev Fields := String → Option Json

/-- Decodes a field that has to be there. -/
def Fields.required (fields : Fields) (name : String) (decode : Decoder α) : Except DecodeError α :=
  match fields name with
  | some value => decode value
  | none => .error (.missing name)

/-- Decodes a field that may be left out. -/
def Fields.optional (fields : Fields) (name : String) (decode : Decoder α) (absent : α) :
    Except DecodeError α :=
  match fields name with
  | some value => decode value
  | none => .ok absent

/-- Decodes a record with fields of these names, in this order where they are not named. An array is
found to be too long only after its fields are decoded. -/
def decodeRecord (names : List String) (decode : Fields → Except DecodeError α) : Decoder α
  | .object members => decode fun name => members.lookup name
  | .array items => do
    let record ← decode fun name => (names.zip items).lookup name
    if items.length ≤ names.length then .ok record else .error .surplus
  | _ => .error (.shape "an object or an array")

end PolicyHeader.Json
