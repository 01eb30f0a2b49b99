/-!
# JSON values

A JSON value and its compact text. The members of an object keep their order, and a number keeps the
digits that it was written with.
-/

namespace PolicyHeader

inductive Json
  | null
  | bool (value : Bool)
  /-- A number, by the text that it is written with. -/
  | number (literal : String)
  | string (value : String)
  | array (items : List Json)
  | object (members : List (String × Json))
  deriving Inhabited, Repr

namespace Json

/-- One character of a string. Quotes, backslashes and controls are escaped, all else is not. -/
def escapeChar (c : Char) : List Char :=
  if c = '\x22' then ['\\', '\x22']
  else if c = '\\' then ['\\', '\\']
  else if c = '\x08' then ['\\', 'b']
  else if c = '\x0c' then ['\\', 'f']
  else if c = '\n' then ['\\', 'n']
  else if c = '\r' then ['\\', 'r']
  else if c = '\t' then ['\\', 't']
  else if c < ' ' then
    ['\\', 'u', '0', '0', Nat.digitChar (c.toNat / 16), Nat.digitChar (c.toNat % 16)]
  else [c]

def stringText (value : String) : String :=
  String.ofList ('\x22' :: value.toList.flatMap escapeChar ++ ['\x22'])

mutual

/-- The text of a value, without spaces. -/
def text : Json → String
  | .null => "null"
  | .bool true => "true"
  | .bool false => "false"
  | .number literal => literal
  | .string value => stringText value
  | .array items => "[" ++ itemsText items ++ "]"
  | .object members => "\x7b" ++ membersText members ++ "\x7d"

/-- The texts of some values, with commas between them. -/
def itemsText : List Json → String
  | [] => ""
  | [item] => item.text
  | item :: next :: rest => item.text ++ "," ++ itemsText (next :: rest)

/-- The texts of some members, with commas between them. -/
def membersText : List (String × Json) → String
  | [] => ""
  | [(name, value)] => stringText name ++ ":" ++ value.text
  | (name, value) :: next :: rest =>
    stringText name ++ ":" ++ value.text ++ "," ++ membersText (next :: rest)

end

end Json

end PolicyHeader
