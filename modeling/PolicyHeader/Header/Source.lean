import PolicyHeader.Text.Pieces

/-!
# Header and package of a source text

The header of a source text is its first block of comments: blank lines may stand before it, and the
first line that is no comment ends it. The package is named by the first package statement.
-/

namespace PolicyHeader.Source

/-- What a comment line says after its mark and at most one space. -/
def commentBody? (line : List Char) : Option (List Char) :=
  match Text.trim line with
  | '#' :: ' ' :: body => some (Text.trimEnd body)
  | '#' :: body => some (Text.trimEnd body)
  | _ => none

/-- The comments of the header. Blank lines are passed over as long as it has not started. -/
def commentsFrom (started : Bool) : List (List Char) → List (List Char)
  | [] => []
  | line :: rest =>
    match commentBody? line with
    | some body => body :: commentsFrom true rest
    | none => if !started && Text.isAllBlank line then commentsFrom started rest else []

/-- The header lines of a source text. -/
def comments (source : String) : List String :=
  (commentsFrom false (Text.lines source.toList)).map String.ofList

/-- The characters that a package path is made of. -/
def isPathChar (c : Char) : Bool :=
  c.isAlphanum || c == '_' || c == '.'

/-- The word that opens a package statement. -/
def packageWord : List Char :=
  ['p', 'a', 'c', 'k', 'a', 'g', 'e']

/-- The path that a package statement names, up to the first character that no path holds. -/
def packagePath? (line : List Char) : Option (List Char) :=
  match packageWord.isPrefixOf? (Text.trimStart line) with
  | some (c :: rest) =>
    if Text.isBlank c then
      let path := (Text.trimStart rest).takeWhile isPathChar
      if path.isEmpty then none else some path
    else none
  | _ => none

/-- The path of the first package statement. -/
def package? (source : String) : Option String :=
  ((Text.lines source.toList).findSome? packagePath?).map String.ofList

end PolicyHeader.Source
