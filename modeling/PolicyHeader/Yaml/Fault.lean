/-!
# Faults of a YAML text

A text can fail to be a YAML stream by its characters, by its tokens, or by its grammar. A fault says
why, and ends the reading.
-/

namespace PolicyHeader.Yaml

/-- Why a text is no YAML stream. -/
inductive Fault
  | forbiddenCharacter
  | tabIndentation
  | openQuote
  | documentMarkInQuote
  | badEscape
  | colonInFlow
  | badBlockHeader
  | badName
  | badTag
  | badDirective
  | strayCharacter
  /-- A line ends, or goes on too long, without the colon that its key needs. -/
  | missingColon
  /-- The mark of an entry, a key or a value stands where none may start. -/
  | misplacedMark
  | repeatedDirective
  | unsupportedVersion
  | missingDocumentStart
  | unknownTagHandle (handle : String)
  | missingNode
  | missingEntry
  | missingKey
  | missingSeparator
  | unknownAlias (name : String)
  deriving DecidableEq, Repr

namespace Fault

def message : Fault → String
  | .forbiddenCharacter => "a control character is not allowed"
  | .tabIndentation => "a tab is no indentation"
  | .openQuote => "a quoted scalar is not closed"
  | .documentMarkInQuote => "a document mark stands in a quoted scalar"
  | .badEscape => "an escape in a quoted scalar is not known"
  | .colonInFlow => "a colon is out of place in a flow collection"
  | .badBlockHeader => "the first line of a block scalar is not understood"
  | .badName => "the name of an anchor or alias is not understood"
  | .badTag => "a tag is not understood"
  | .badDirective => "a directive is not understood"
  | .strayCharacter => "a character starts no token"
  | .missingColon => "a key lacks its colon"
  | .misplacedMark => "an entry, a key or a value may not start here"
  | .repeatedDirective => "a directive is repeated"
  | .unsupportedVersion => "the version is not supported"
  | .missingDocumentStart => "the start of a document is missing"
  | .unknownTagHandle handle => "the tag handle " ++ handle ++ " is not known"
  | .missingNode => "the content of a node is missing"
  | .missingEntry => "the entry of a sequence is missing"
  | .missingKey => "the key of a mapping is missing"
  | .missingSeparator => "a comma or the end of a flow collection is missing"
  | .unknownAlias name => "the alias " ++ name ++ " has no anchor"

end Fault

end PolicyHeader.Yaml
