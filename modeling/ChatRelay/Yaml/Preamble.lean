import ChatRelay.Text.Numeral
import ChatRelay.Yaml.Name
import ChatRelay.Yaml.Scalar.Block
import ChatRelay.Yaml.Token

/-!
# The preamble of a YAML document

The lines that start with a percent sign: the version of the language, the handles of tags, and
others that are read over.
-/

namespace ChatRelay.Yaml

/-- A place that must end a word. -/
def expectWordEnd (c : Cursor) : Except Problem Unit :=
  if endsWord c.here then .ok () else .error .malformed

/-- A number of the version line. -/
def versionNumber (c : Cursor) : Found Nat :=
  let digits := c.span Char.isDigit
  if digits.1.isEmpty then .error .malformed
  else match Text.Numeral.ofDigits digits.1 with
    | .ok n => .ok (n, digits.2)
    | .error refusal => .error (.notNumeral refusal)

/-- The version of the language: two numbers with a point between them. -/
def versionLine (c : Cursor) : Except Problem (Token × Cursor) := do
  let major ← versionNumber c.skipSpaces
  if major.2.here ≠ some '.' then throw .malformed
  let minor ← versionNumber major.2.advance
  expectWordEnd minor.2
  return (.versionLine major.1 minor.1, minor.2)

/-- A handle of tags and what it stands for. -/
def tagLine (c : Cursor) : Except Problem (Token × Cursor) := do
  let handle ← tagHandle c.skipSpaces
  if handle.2.here ≠ some ' ' then throw .malformed
  let expansion ← uri handle.2.skipSpaces
  expectWordEnd expansion.2
  return (.tagLine handle.1 expansion.1, expansion.2)

/-- The rest of a line that is read over. -/
def otherLine (c : Cursor) : Found Token := .ok (.otherLine, (c.span fun x => !isBreak x).2)

/-- A line of the preamble, from its percent sign on. -/
def preambleLine (c : Cursor) : Except Problem (Token × Cursor) := do
  let name := c.advance.span isNameChar
  if name.1.isEmpty then throw .malformed
  expectWordEnd name.2
  let line ← match String.ofList name.1 with
    | "YAML" => versionLine name.2
    | "TAG" => tagLine name.2
    | _ => otherLine name.2
  return (line.1, ← restOfLine line.2)

end ChatRelay.Yaml
