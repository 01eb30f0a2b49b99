import PolicyHeader.Run
import PolicyHeader.Scope.Basic
import PolicyHeader.Settings

/-!
# Reading a scope

A scope is read off header lines in three passes: kinds, then labels, then requirements. Each pass
looks at the lines that carry its own tag and skips all others, with a notice for every line. The
first error ends the reading.
-/

namespace PolicyHeader

/-- A family of annotations: their tag, and what one line of theirs adds to what was found before. -/
structure Family (α : Type) where
  tag : String
  /-- What is found on no lines. -/
  start : α
  /-- Takes the line, its values, and what was found before. -/
  add : String → List String → α → Run α

namespace Family

variable {α : Type}

/-- Reads the lines of the family among other lines, after some lines are read. -/
def readFrom (family : Family α) (found : α) : List String → Run α
  | [] => pure found
  | line :: rest =>
    match Tag.values? family.tag line with
    | none => do
      Run.note (.skipped family.tag line)
      family.readFrom found rest
    | some values => do
      let found ← family.add line values found
      family.readFrom found rest

def read (family : Family α) (lines : List String) : Run α :=
  family.readFrom family.start lines

end Family

namespace Kinds

/-- The family of lines that name resource kinds. -/
def family : Family Kinds where
  tag := Tag.kinds
  start := []
  add _ words kinds :=
    if words.isEmpty then Run.fail (.noValues Tag.kinds)
    else do
      Run.note (.tagged Tag.kinds words)
      pure (kinds.insertWords words)

end Kinds

namespace Labels

/-- The key and the value that a word gives, with the first equals sign between them. The key may not
be empty. -/
def entryOfWord (policy : LabelPolicy) (word : String) :
    Except HeaderError (String × String) :=
  match Text.cutText? '=' word with
  | some (key, value) => if key = "" then .error (.malformedLabel word) else .ok (key, value)
  | none =>
    match policy with
    | .reject => .error (.malformedLabel word)
    | .emptyValue => .ok (word, "")

/-- Adds the labels that some words give, in order. -/
def insertWords (policy : LabelPolicy) (labels : Labels) :
    List String → Except HeaderError Labels
  | [] => .ok labels
  | word :: rest =>
    match entryOfWord policy word with
    | .ok (key, value) => insertWords policy (labels.insert key value) rest
    | .error error => .error error

/-- The family of lines that give labels. -/
def family (policy : LabelPolicy) : Family Labels where
  tag := Tag.labels
  start := .empty
  add _ words labels :=
    if words.isEmpty then Run.fail (.noValues Tag.labels)
    else do
      Run.note (.tagged Tag.labels words)
      Run.ofExcept (labels.insertWords policy words)

end Labels

namespace Requirement

/-- The family of lines that each give one requirement. -/
def family : Family (List Requirement) where
  tag := Tag.requirement
  start := []
  add line words requirements :=
    match ofWords? words with
    | none => Run.fail (.requirementArity line words.length)
    | some requirement => do
      Run.note (.requirement requirement)
      pure (requirements ++ [requirement])

end Requirement

namespace Scope

/-- The scope that header lines give. -/
def ofLines (settings : Settings) (lines : List String) : Run Scope := do
  let kinds ← Kinds.family.read lines
  let labels ← (Labels.family settings.labelPolicy).read lines
  let requirements ← Requirement.family.read lines
  Run.note (.summary kinds.length labels.size requirements.length)
  pure ⟨kinds, labels, requirements⟩

end Scope

end PolicyHeader
