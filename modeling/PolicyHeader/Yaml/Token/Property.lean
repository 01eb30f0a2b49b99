import PolicyHeader.Yaml.Fault
import PolicyHeader.Yaml.Spot
import PolicyHeader.Yaml.Token

/-!
# Names, tags and directives

The tokens that begin with a mark of their own and are words of a small grammar: the names of anchors
and aliases, tags, and the directives before a document. Tags are read for their handles only, but the
rest of a tag has to be well formed.
-/

namespace PolicyHeader.Yaml

/-- Whether a character may follow the name of an anchor or alias. -/
def endsName (c : Char) : Bool :=
  isSpaceOrEnd c || c = '?' || c = ':' || c = ',' || c = ']' || c = '\x7d' || c = '%' || c = '@' ||
    c = '\x60'

/-- The name of an anchor or alias, after its mark. -/
def readName (input : List Spot) : Except Fault (List Char × List Spot) :=
  let name := charsWhile isNameChar input
  let rest := dropChars isNameChar input
  if !name.isEmpty && endsName (charAt 0 rest) then .ok (name, rest) else .error .badName

/-- Whether a character other than the percent sign may stand in a tag. Commas and square brackets may
stand only where no flow collection can be meant. -/
def isTagChar (verbatim : Bool) (c : Char) : Bool :=
  isNameChar c || c = ';' || c = '/' || c = '?' || c = ':' || c = '@' || c = '&' || c = '=' ||
    c = '+' || c = '$' || c = '.' || c = '!' || c = '~' || c = '*' || c = '\x27' || c = '(' ||
    c = ')' || (verbatim && (c = ',' || c = '[' || c = ']'))

/-- How many octets a character takes in UTF-8, by the first of them. -/
def octetCount? (octet : Nat) : Option Nat :=
  if octet < 0x80 then some 1
  else if 0xc0 ≤ octet ∧ octet < 0xe0 then some 2
  else if 0xe0 ≤ octet ∧ octet < 0xf0 then some 3
  else if 0xf0 ≤ octet ∧ octet < 0xf8 then some 4
  else none

/-- How many octets are due after one more, if that one may stand here. -/
def octetsDue? (due octet : Nat) : Option Nat :=
  if due = 0 then (octetCount? octet).map (· - 1)
  else if 0x80 ≤ octet ∧ octet < 0xc0 then some (due - 1)
  else none

/-- Skips the characters of a tag, of which some are written as octets after percent signs. Some octets
of a character may be due. -/
def skipTagChars? (verbatim : Bool) (due : Nat) : List Spot → Option (List Spot)
  | [] => if due = 0 then some [] else none
  | spot :: rest =>
    if spot.char = '%' then
      match rest with
      | high :: low :: rest =>
        match hexDigit? high.char, hexDigit? low.char with
        | some h, some l =>
          match octetsDue? due (16 * h + l) with
          | some due => skipTagChars? verbatim due rest
          | none => none
        | _, _ => none
      | _ => none
    else if due ≠ 0 then none
    else if isTagChar verbatim spot.char then skipTagChars? verbatim 0 rest
    else some (spot :: rest)

/-- Whether at least one character of a tag stands at the front. -/
def startsTagChars (verbatim : Bool) (input : List Spot) : Bool :=
  charAt 0 input = '%' || isTagChar verbatim (charAt 0 input)

/-- The handle at the front: an exclamation mark, alone or with a name and another mark after it. A
name without the other mark is given back with the first one. -/
def readHandle? (input : List Spot) : Option (List Char × List Spot) :=
  if charAt 0 input = '!' then
    let name := charsWhile isNameChar (input.drop 1)
    let rest := dropChars isNameChar (input.drop 1)
    if charAt 0 rest = '!' then some ('!' :: name ++ ['!'], rest.drop 1)
    else some ('!' :: name, rest)
  else none

/-- Whether a handle has marks on both sides. -/
def isFullHandle (handle : List Char) : Bool :=
  2 ≤ handle.length && handle.getLast? = some '!'

/-- The handle of the tag at the front, and what follows the tag. -/
def readTagParts? (input : List Spot) : Option (List Char × List Spot) :=
  if charAt 1 input = '<' then
    let input := input.drop 2
    if startsTagChars true input then
      match skipTagChars? true 0 input with
      | some rest => if charAt 0 rest = '>' then some ([], rest.drop 1) else none
      | none => none
    else none
  else
    match readHandle? input with
    | none => none
    | some (handle, rest) =>
      if isFullHandle handle then
        if startsTagChars false rest then
          (skipTagChars? false 0 rest).map fun rest => (handle, rest)
        else none
      else
        let bare := handle.length = 1 && !startsTagChars false rest
        (skipTagChars? false 0 rest).map fun rest => (if bare then [] else ['!'], rest)

/-- The tag at the front. In a flow collection a comma may follow it. -/
def readTag (flow : Bool) (input : List Spot) : Except Fault (Token × List Spot) :=
  match readTagParts? input with
  | some (handle, rest) =>
    if isSpaceOrEnd (charAt 0 rest) || (flow && charAt 0 rest = ',') then .ok (.tag handle, rest)
    else .error .badTag
  | none => .error .badTag

/-- The number at the front of a version, of at most nine digits. -/
def readVersionNumber? (input : List Spot) : Option (Nat × List Spot) :=
  let digits := charsWhile Char.isDigit input
  if digits.isEmpty || 9 < digits.length then none
  else
    some (digits.foldl (fun n digit => 10 * n + (digit.toNat - '0'.toNat)) 0,
      dropChars Char.isDigit input)

/-- The version after the name of its directive. -/
def readVersion? (input : List Spot) : Option (Token × List Spot) := do
  let (major, rest) ← readVersionNumber? (dropChars isSpace input)
  if charAt 0 rest = '.' then
    let (minor, rest) ← readVersionNumber? (rest.drop 1)
    return (.version major minor, rest)
  else none

/-- The handle after the name of its directive, with the text that it stands for. -/
def readTagDirective? (input : List Spot) : Option (Token × List Spot) := do
  let (handle, rest) ← readHandle? (dropChars isSpace input)
  if (isFullHandle handle || handle.length = 1) && isSpace (charAt 0 rest) then
    let rest := dropChars isSpace rest
    if startsTagChars true rest then
      let rest ← skipTagChars? true 0 rest
      if isSpaceOrEnd (charAt 0 rest) then return (.tagHandle handle, rest) else none
    else none
  else none

/-- The directive after its mark, with the rest of its line. -/
def readDirective (input : List Spot) : Except Fault (Token × List Spot) :=
  let name := charsWhile isNameChar input
  let rest := dropChars isNameChar input
  let parts? :=
    if !isSpaceOrEnd (charAt 0 rest) then none
    else if name = ['Y', 'A', 'M', 'L'] then readVersion? rest
    else if name = ['T', 'A', 'G'] then readTagDirective? rest
    else none
  match parts? with
  | none => .error .badDirective
  | some (token, rest) =>
    match endLine? rest with
    | some rest => .ok (token, rest)
    | none => .error .badDirective

end PolicyHeader.Yaml
