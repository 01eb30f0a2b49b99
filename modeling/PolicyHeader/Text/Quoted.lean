import PolicyHeader.Text.Unprintable
import PolicyHeader.Text.GraphemeExtend

/-!
# Quoted text

A quoted text stands between double quotes on one line. Quotes, backslashes and the common controls
are written with a backslash. Every other character that is not printable, or that would join the
character before it, is written as its code point in hexadecimal.
-/

namespace PolicyHeader.Text

/-- A code point in hexadecimal, between braces. -/
def escapeCode (c : Char) : List Char :=
  '\\' :: 'u' :: '\x7b' :: Nat.toDigits 16 c.toNat ++ ['\x7d']

/-- One character of a quoted text. -/
def escapeChar (c : Char) : List Char :=
  if c = '\x00' then ['\\', '0']
  else if c = '\t' then ['\\', 't']
  else if c = '\n' then ['\\', 'n']
  else if c = '\r' then ['\\', 'r']
  else if c = '\\' then ['\\', '\\']
  else if c = '\x22' then ['\\', '\x22']
  else if ' ' ≤ c ∧ c ≤ '~' then [c]
  else if extendsGrapheme c || isUnprintable c then escapeCode c
  else [c]

/-- A text in double quotes. -/
def quote (s : String) : String :=
  String.ofList ('\x22' :: s.toList.flatMap escapeChar ++ ['\x22'])

/-- Quoted texts in brackets. -/
def quoteList (texts : List String) : String :=
  "[" ++ ", ".intercalate (texts.map quote) ++ "]"

end PolicyHeader.Text
