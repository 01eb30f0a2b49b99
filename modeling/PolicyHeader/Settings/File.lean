import PolicyHeader.Settings.Document

/-!
# Settings files

A settings file is found, holds text, and that text is a settings document.
-/

namespace PolicyHeader

/-- What a path leads to. -/
inductive PathEntry
  | missing
  | directory
  | file (bytes : ByteArray)

namespace Settings

/-- Why a file gives no settings. -/
inductive FileError
  | notFound (path : String)
  | directory
  | notText
  | document (error : DocumentError)
  deriving DecidableEq, Repr

namespace FileError

def message : FileError → String
  | .notFound path => "Config file not found: " ++ path
  | .directory => "IO error: Is a directory (os error 21)"
  | .notText => "IO error: stream did not contain valid UTF-8"
  | .document error => "Invalid YAML: " ++ error.message

end FileError

/-- The settings that the entry at a path gives. The empty path leads nowhere. -/
def ofEntry (path : String) (entry : PathEntry) : Except FileError Settings :=
  match entry with
  | .missing => .error (.notFound path)
  | .directory => if path = "" then .error (.notFound path) else .error .directory
  | .file bytes =>
    if path = "" then .error (.notFound path)
    else
      match String.fromUTF8? bytes with
      | none => .error .notText
      | some text => (ofText text).mapError .document

end Settings

end PolicyHeader
