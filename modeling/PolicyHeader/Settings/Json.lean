import PolicyHeader.Json.Decode
import PolicyHeader.Settings

/-!
# Settings as JSON

The JSON form of the settings, and of a label policy, which is its name.
-/

namespace PolicyHeader

open Json (Decoder decodeString decodeRecord)

def LabelPolicy.toJson (policy : LabelPolicy) : Json :=
  .string policy.name

def LabelPolicy.ofJson : Decoder LabelPolicy := fun value => do
  let text ← decodeString value
  match ofText? text with
  | some policy => .ok policy
  | none => .error (.unknownPolicy text)

/-- A string is decoded as the text that it holds. -/
theorem LabelPolicy.ofJson_string (text : String) :
    ofJson (.string text) = (ofText? text).elim (.error (.unknownPolicy text)) .ok := by
  simp only [ofJson, decodeString, bind, Except.bind]
  cases ofText? text <;> rfl

def Settings.toJson (settings : Settings) : Json :=
  .object [(labelPolicyKey, settings.labelPolicy.toJson)]

def Settings.ofJson : Decoder Settings :=
  decodeRecord [labelPolicyKey] fun fields => do
    let policy ← fields.optional labelPolicyKey LabelPolicy.ofJson standard.labelPolicy
    pure ⟨policy⟩

end PolicyHeader
