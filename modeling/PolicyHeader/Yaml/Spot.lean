/-!
# Characters at their places

A YAML text is read as a list of spots, each a character with its place in the text. The list ends in
an end mark, a character that no text holds. Before that, the line breaks of the text are unified.
-/

namespace PolicyHeader.Yaml

/-- A character, how many characters and how many lines stand before it in the text, and how many
characters in its line. -/
structure Spot where
  char : Char
  index : Nat
  line : Nat
  column : Nat
  deriving Repr

/-- The character after the last one of a text. -/
def endMark : Char := '\x00'

/-- Whether a text may hold a character. -/
def isAllowed (c : Char) : Bool :=
  c = '\t' || c = '\n' || c = '\r' || (' ' ≤ c && c ≤ '~') || c = '\u0085' ||
    ('\u00a0' ≤ c && c ≠ '\ufffe' && c ≠ '\uffff')

/-- Carriage returns and next-line characters become line feeds, and so does a carriage return with
the line feed after it. -/
def unifyBreaks : List Char → List Char
  | [] => []
  | '\r' :: '\n' :: rest => '\n' :: unifyBreaks rest
  | c :: rest => (if c = '\r' ∨ c = '\u0085' then '\n' else c) :: unifyBreaks rest

def isBreak (c : Char) : Bool :=
  c = '\n' || c = '\u2028' || c = '\u2029'

def isSpace (c : Char) : Bool :=
  c = ' ' || c = '\t'

def isBreakOrEnd (c : Char) : Bool :=
  isBreak c || c = endMark

def isSpaceOrEnd (c : Char) : Bool :=
  isSpace c || isBreakOrEnd c

/-- A letter, a digit, an underscore or a hyphen, all of ASCII. -/
def isNameChar (c : Char) : Bool :=
  c.isAlphanum || c = '_' || c = '-'

/-- The value of a hexadecimal digit. -/
def hexDigit? (c : Char) : Option Nat :=
  if '0' ≤ c ∧ c ≤ '9' then some (c.toNat - '0'.toNat)
  else if 'a' ≤ c ∧ c ≤ 'f' then some (c.toNat - 'a'.toNat + 10)
  else if 'A' ≤ c ∧ c ≤ 'F' then some (c.toNat - 'A'.toNat + 10)
  else none

/-- The spots of a text that starts at a place. -/
def spotsFrom (index line column : Nat) : List Char → List Spot
  | [] => [⟨endMark, index, line, column⟩]
  | c :: rest =>
    ⟨c, index, line, column⟩ ::
      if isBreak c then spotsFrom (index + 1) (line + 1) 0 rest
      else spotsFrom (index + 1) line (column + 1) rest

/-- The spots of a text. -/
def spots (text : List Char) : List Spot :=
  spotsFrom 0 0 0 (unifyBreaks text)

/-- The character at a distance from the first spot. -/
def charAt (distance : Nat) (input : List Spot) : Char :=
  (input[distance]?).elim endMark Spot.char

/-- The characters at the front that satisfy a test. -/
def charsWhile (test : Char → Bool) (input : List Spot) : List Char :=
  (input.takeWhile fun spot => test spot.char).map Spot.char

/-- What follows the characters at the front that satisfy a test. -/
def dropChars (test : Char → Bool) (input : List Spot) : List Spot :=
  input.dropWhile fun spot => test spot.char

/-- Whether a line starts here with three dashes or three dots that stand alone. -/
def atDocumentMark (input : List Spot) : Bool :=
  match input with
  | first :: second :: third :: rest =>
    first.column = 0 && (first.char = '-' || first.char = '.') && second.char = first.char &&
      third.char = first.char && isSpaceOrEnd (charAt 0 rest)
  | _ => false

/-- What follows the rest of a line, if that holds nothing but spaces and a comment. -/
def endLine? (input : List Spot) : Option (List Spot) :=
  let input := dropChars isSpace input
  let input := if charAt 0 input = '#' then dropChars (fun c => !isBreakOrEnd c) input else input
  if isBreak (charAt 0 input) then some (input.drop 1)
  else if charAt 0 input = endMark then some input
  else none

end PolicyHeader.Yaml
