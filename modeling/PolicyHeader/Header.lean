import PolicyHeader.Header.Path
import PolicyHeader.Header.Source
import PolicyHeader.Scope.Reading

/-!
# Headers

The header of a policy gives the title of the policy, the action that enforces it, and its scope, all
by annotations. The first line with the tag of the title or of the action decides alone.
-/

namespace PolicyHeader

structure Header where
  /-- Where the policy came from, if that is known. -/
  path : Option Path
  /-- The package that the policy belongs to. -/
  package : Option String
  lines : List String
  deriving BEq, Repr

namespace Header

/-- A header of lines without comment marks. -/
def ofLines (lines : List String) : Header :=
  ⟨none, none, lines⟩

/-- The header of the text of a policy. -/
def ofSource (source : String) : Header :=
  ⟨none, Source.package? source, Source.comments source⟩

/-- The header of the text of a policy in a file. -/
def ofFile (path : String) (source : String) : Header :=
  { ofSource source with path := some ⟨path⟩ }

/-- The values of the first line that carries a tag. -/
def firstValues? (header : Header) (tag : String) : Option (List String) :=
  header.lines.findSome? (Tag.values? tag)

def title (header : Header) : Except HeaderError (Option String) :=
  match header.firstValues? Tag.title with
  | none => .ok none
  | some [] => .error (.noValues Tag.title)
  | some words => .ok (some (" ".intercalate words))

/-- The action that holds where the header names none. -/
def standardEnforcement : String := "deny"

def enforcement (header : Header) : Except HeaderError String :=
  match header.firstValues? Tag.enforcement with
  | none => .ok standardEnforcement
  | some [] => .error (.noValues Tag.enforcement)
  | some (action :: _) => .ok action

/-- The scope that the header gives. -/
def scope (settings : Settings) (header : Header) : Run Scope := do
  if let some path := header.path then
    Run.note (.file path.text)
  Scope.ofLines settings header.lines

end Header

end PolicyHeader
