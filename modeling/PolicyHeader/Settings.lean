import PolicyHeader.LabelPolicy
import PolicyHeader.Notice

/-!
# Settings

The settings say how scopes are read. They are the defaults unless a document or the environment gives
others. An environment variable that names no policy is noted and otherwise ignored.
-/

namespace PolicyHeader

structure Settings where
  labelPolicy : LabelPolicy
  deriving DecidableEq, Repr

namespace Settings

/-- The settings that hold where none are given. -/
def standard : Settings :=
  ⟨.reject⟩

instance : Inhabited Settings :=
  ⟨standard⟩

/-- The name of the label policy in a document. -/
def labelPolicyKey : String := "malformed_labels"

/-- The environment variable that names a label policy. -/
def variableName : String := "KONSTRAINT_MALFORMED_LABELS"

/-- The settings that the environment variable gives, and what is noted about it. A variable that is
not set or whose bytes are no text is passed over without a notice. -/
def ofVariable (bytes? : Option ByteArray) : Settings × List Notice :=
  match bytes?.bind String.fromUTF8? with
  | none => (standard, [])
  | some text =>
    match LabelPolicy.ofText? text with
    | some policy => (⟨policy⟩, [])
    | none => (standard, [.unknownPolicy variableName text])

/-- The document that gives the settings. -/
def document (settings : Settings) : String :=
  labelPolicyKey ++ ": " ++ settings.labelPolicy.name ++ "\n"

end Settings

end PolicyHeader
