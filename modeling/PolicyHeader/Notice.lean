import PolicyHeader.Tag
import PolicyHeader.Scope.Requirement

/-!
# Notices

What is noted for the log while headers and settings are read. Every notice is one line of text at one
level.
-/

namespace PolicyHeader

namespace Notice

inductive Level
  | trace
  | debug
  | warn
  deriving DecidableEq, Repr

def Level.name : Level → String
  | .trace => "TRACE"
  | .debug => "DEBUG"
  | .warn => "WARN"

end Notice

inductive Notice
  /-- The line does not carry the tag that is looked for. -/
  | skipped (tag line : String)
  /-- The line carries the tag, with these values. -/
  | tagged (tag : String) (values : List String)
  | requirement (requirement : Requirement)
  /-- All lines are read, and this many entries are found. -/
  | summary (groups labels requirements : Nat)
  /-- The header of a file is about to be read. -/
  | file (path : String)
  /-- An environment variable holds a text that names no label policy. -/
  | unknownPolicy (variableName text : String)
  deriving DecidableEq, Repr

namespace Notice

def level : Notice → Level
  | .skipped .. => .trace
  | .unknownPolicy .. => .warn
  | _ => .debug

def message : Notice → String
  | .skipped tag line => tag ++ " skipping line: " ++ Text.quote line
  | .tagged tag values => tag ++ " annotation: " ++ Text.quoteList values
  | .requirement r => Tag.requirement ++ " annotation: " ++ r.text
  | .summary groups labels requirements =>
    "Parsed matchers: " ++ toString groups ++ " api groups, " ++ toString labels ++ " labels, " ++
      toString requirements ++ " expressions"
  | .file path => "Parsing matchers for " ++ path
  | .unknownPolicy variableName text =>
    "Ignoring unknown " ++ variableName ++ " value " ++ Text.quote text ++ ", using default"

end Notice

end PolicyHeader
