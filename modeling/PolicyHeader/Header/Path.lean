import PolicyHeader.Text.Pieces

/-!
# Paths

Two paths are the same if they have the same components, even if they are spelled differently.
Repeated slashes, slashes at the end, and dots other than a leading one do not count.
-/

namespace PolicyHeader

/-- The path of a file, as it was given. -/
structure Path where
  text : String
  deriving Repr

namespace Path

/-- What a path says, without its spelling. -/
structure Components where
  /-- Whether the path starts at the root. -/
  absolute : Bool
  /-- Whether the path starts with a dot. -/
  dotted : Bool
  names : List String
  deriving DecidableEq, Repr

def components (path : Path) : Components :=
  let pieces := (path.text.toList.splitOn '/').map String.ofList
  { absolute := path.text.toList.head? = some '/'
    dotted := pieces.head? = some "."
    names := pieces.filter fun piece => piece ≠ "" ∧ piece ≠ "." }

instance : BEq Path :=
  ⟨fun first second => first.components == second.components⟩

end Path

end PolicyHeader
