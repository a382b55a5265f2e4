import ChatRelay.Yaml.Problem

/-!
# Tokens of YAML

The tokens that a YAML text consists of. The starts and ends of block collections are tokens too,
which the indentation of the text gives rise to. The last token is the end of the text, or the
problem because of which the text cannot be read further.
-/

namespace ChatRelay.Yaml

/-- A token. -/
inductive Token where
  /-- A line `%YAML` with its two numbers. -/
  | versionLine (major minor : Nat)
  /-- A line `%TAG` with a handle and what it stands for. -/
  | tagLine (handle expansion : String)
  /-- Any other line that starts with a percent sign. -/
  | otherLine
  | documentStart
  | documentEnd
  | blockSequenceStart
  | blockMappingStart
  | blockEnd
  | flowSequenceStart
  | flowSequenceEnd
  | flowMappingStart
  | flowMappingEnd
  | flowEntry
  | blockEntry
  | key
  | value
  | alias (name : String)
  | anchor (name : String)
  /-- A tag: the handle that it starts with, if any, and the rest. -/
  | tag (handle : Option String) (suffix : String)
  /-- A scalar, and whether it is written without quotes. -/
  | scalar (text : Text.Wide) (plain : Bool)
  | streamEnd
  | problem (problem : Problem)
  deriving DecidableEq, Repr, Inhabited

end ChatRelay.Yaml
