import PolicyHeader.Header
import PolicyHeader.Settings.Document

/-!
# Sessions

A session holds header lines and settings, which steps change one after another. A document that gives
no settings leaves the session as it was.
-/

namespace PolicyHeader

structure Session where
  lines : List String
  settings : Settings

namespace Session

/-- A session without lines. -/
def start : Session :=
  ⟨[], .standard⟩

inductive Step
  /-- Adds a line. -/
  | line (text : String)
  /-- Removes the last line if there is one. -/
  | drop
  /-- Adds the header lines of a source text. -/
  | source (text : String)
  /-- Takes the settings from a document. -/
  | document (text : String)
  /-- Takes the settings from the environment variable. -/
  | variable (bytes? : Option ByteArray)

/-- What a step leads to. -/
structure Result where
  session : Session
  notices : List Notice
  error : Option Settings.DocumentError

def step (session : Session) : Step → Result
  | .line text => ⟨{ session with lines := session.lines ++ [text] }, [], none⟩
  | .drop => ⟨{ session with lines := session.lines.dropLast }, [], none⟩
  | .source text =>
    ⟨{ session with lines := session.lines ++ Source.comments text }, [], none⟩
  | .document text =>
    match Settings.ofText text with
    | .ok settings => ⟨{ session with settings := settings }, [], none⟩
    | .error error => ⟨session, [], some error⟩
  | .variable bytes? =>
    let (settings, notices) := Settings.ofVariable bytes?
    ⟨{ session with settings := settings }, notices, none⟩

/-- The header of the lines. -/
def header (session : Session) : Header :=
  .ofLines session.lines

/-- The scope that the lines give under the settings. -/
def scope (session : Session) : Run Scope :=
  session.header.scope session.settings

end Session

end PolicyHeader
