import PolicyHeader.Yaml.Anchors
import PolicyHeader.Yaml.Parse
import PolicyHeader.Yaml.Token.Lexer

/-!
# The first document of a YAML stream

A document is known up to its end or to the first fault, so that what stands before a fault can be
used. An alias stands for the last node of its number.
-/

namespace PolicyHeader.Yaml

/-- The first document of a stream. -/
structure Document where
  /-- The events up to the end of the document or the first fault. -/
  events : List (Event Nat)
  /-- The fault in the document. -/
  fault : Option Fault
  /-- Whether something stands after the document, be it only a fault. -/
  followed : Bool
  deriving Repr

namespace Document

/-- Whether something other than document ends stands before the end of the stream. -/
def isFollowed (rest : List Token) : Bool :=
  match rest.dropWhile (· = .documentEnd) with
  | .streamEnd :: _ => false
  | _ => true

/-- The document that some tokens and a fault after them give. A document ends only where the token
after it is seen. -/
def ofTokens (tokens : List Token) (fault : Option Fault) : Document :=
  let parse := parseFirst tokens
  let (events, unbound) := numberEvents .empty parse.events
  match unbound, parse.ending with
  | some name, _ => ⟨events, some (.unknownAlias (String.ofList name)), true⟩
  | none, .fault fault => ⟨events, some fault, true⟩
  | none, .short | none, .complete [] => ⟨events, some (fault.getD .missingNode), true⟩
  | none, .complete rest => ⟨events, none, isFollowed rest⟩

/-- The first document of a text. -/
def ofText (text : String) : Document :=
  let (tokens, fault) := Token.ofText text.toList
  ofTokens tokens fault

/-- The event that an alias number stands for: the last one with that number. -/
def target? (document : Document) (number : Nat) : Option (Event Nat) :=
  document.events.reverse.find? fun event => event.anchor? = some number

end Document

end PolicyHeader.Yaml
