import PolicyHeader.Yaml.Fault
import PolicyHeader.Yaml.Scalar.Gap

/-!
# Quoted scalars

In single quotes, a quote is written twice and nothing else is special. In double quotes, a backslash
starts an escape, and a backslash before a line break removes the break.
-/

namespace PolicyHeader.Yaml

inductive QuoteStyle
  | single
  | double
  deriving DecidableEq, Repr

namespace QuoteStyle

def mark : QuoteStyle → Char
  | .single => '\x27'
  | .double => '\x22'

end QuoteStyle

/-- Where the reader of a quoted scalar stands. -/
inductive QuoteState
  /-- After a gap, which may be empty. -/
  | inside (gap : Gap)
  /-- After a quote in single quotes. -/
  | quote
  /-- After a backslash in double quotes. -/
  | escape
  /-- Before the last digits of a code point, after others that stand for a value. -/
  | code (left value : Nat)
  deriving Repr

/-- The character that an escape of one character stands for. -/
def escapedChar? : Char → Option Char
  | '0' => some '\x00'
  | 'a' => some '\x07'
  | 'b' => some '\x08'
  | 't' => some '\t'
  | '\t' => some '\t'
  | 'n' => some '\n'
  | 'v' => some '\x0b'
  | 'f' => some '\x0c'
  | 'r' => some '\r'
  | 'e' => some '\x1b'
  | ' ' => some ' '
  | '\x22' => some '\x22'
  | '/' => some '/'
  | '\\' => some '\\'
  | 'N' => some '\u0085'
  | '_' => some '\u00a0'
  | 'L' => some '\u2028'
  | 'P' => some '\u2029'
  | _ => none

/-- How many hexadecimal digits follow an escape. -/
def codeLength? : Char → Option Nat
  | 'x' => some 2
  | 'u' => some 4
  | 'U' => some 8
  | _ => none

/-- Reads a quoted scalar to its end, after the characters read before, the last one first. -/
def readQuotedFrom (style : QuoteStyle) (state : QuoteState) (reversed : List Char) :
    List Spot → Except Fault (List Char × List Spot)
  | [] => .error .openQuote
  | spot :: rest =>
    let c := spot.char
    match state with
    | .inside gap =>
      if isBreak c then readQuotedFrom style (.inside (gap.addBreak c)) reversed rest
      else if isSpace c then readQuotedFrom style (.inside (gap.addSpace c)) reversed rest
      else
        let reversed := gap.reversedText ++ reversed
        if atDocumentMark (spot :: rest) then .error .documentMarkInQuote
        else if c = endMark then .error .openQuote
        else if c = style.mark then
          match style with
          | .single => readQuotedFrom style .quote reversed rest
          | .double => .ok (reversed.reverse, rest)
        else if style = .double ∧ c = '\\' then readQuotedFrom style .escape reversed rest
        else readQuotedFrom style (.inside .empty) (c :: reversed) rest
    | .quote =>
      if c = style.mark then readQuotedFrom style (.inside .empty) (c :: reversed) rest
      else .ok (reversed.reverse, spot :: rest)
    | .escape =>
      if isBreak c then readQuotedFrom style (.inside (.lines none [])) reversed rest
      else
        match escapedChar? c, codeLength? c with
        | some meant, _ => readQuotedFrom style (.inside .empty) (meant :: reversed) rest
        | none, some length => readQuotedFrom style (.code length 0) reversed rest
        | none, none => .error .badEscape
    | .code left value =>
      match hexDigit? c with
      | none => .error .badEscape
      | some digit =>
        let value := 16 * value + digit
        if left ≤ 1 then
          if value.isValidChar then
            readQuotedFrom style (.inside .empty) (Char.ofNat value :: reversed) rest
          else .error .badEscape
        else readQuotedFrom style (.code (left - 1) value) reversed rest

/-- The text of a quoted scalar and what follows it. The input starts after the opening quote. -/
def readQuoted (style : QuoteStyle) (input : List Spot) : Except Fault (List Char × List Spot) :=
  readQuotedFrom style (.inside .empty) [] input

end PolicyHeader.Yaml
