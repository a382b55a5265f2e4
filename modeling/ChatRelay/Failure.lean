import ChatRelay.Config.Problem
import ChatRelay.Disk
import ChatRelay.Json
import ChatRelay.Yaml.Problem

/-!
# Failures

A unit of work ends in a failure when something it needs fails: a service outside the relay, the
disk, or the reading of a number; and the relay does not start without a configuration. A failure
has a kind and a message, and `describe` shows both.
-/

namespace ChatRelay

/-- Why something failed. -/
inductive Failure where
  /-- A service outside the relay failed, with a kind and a text of its own. -/
  | service (kind text : String)
  /-- A text was to be read as a number and could not. -/
  | numeral (refusal : Text.Numeral.Refusal)
  /-- A channel that is not a text channel was to be used as one. -/
  | notTextChannel (channelId : String)
  /-- A value that is no directive, shown, was to be carried out. -/
  | notDirective (shown : String)
  /-- A directive that asks nothing, shown, was to be answered. -/
  | notFeedback (shown : String)
  /-- A value that is no unit of work, shown, was to be worked on. -/
  | notWork (shown : String)
  /-- The disk refused a request. -/
  | disk (refusal : Disk.Refusal)
  /-- A file that was to be read as text is not in UTF-8. -/
  | undecodable
  /-- A text that was to be written to a file has lone surrogates. -/
  | unencodable (text : Text.Wide)
  /-- A text that was to be read as JSON is not. -/
  | json (refusal : Json.Refusal)
  /-- A path, shown, has no last name to be changed. -/
  | namelessPath (shown : String)
  /-- A text that was to be read as YAML is no document. -/
  | yaml (problem : Yaml.Problem)
  /-- A document that was to be read as a configuration is none. -/
  | config (problem : Config.Problem)
  deriving DecidableEq, Repr, Inhabited

namespace Failure

/-- The kind of a failure. -/
def kind : Failure → String
  | service kind _ => kind
  | numeral _ | notTextChannel _ | namelessPath _ => "ValueError"
  | notDirective _ | notFeedback _ | notWork _ => "TypeError"
  | disk refusal => refusal.cause.kind
  | undecodable => "UnicodeDecodeError"
  | unencodable _ => "UnicodeEncodeError"
  | json .malformed => "JSONDecodeError"
  | json (.tooDeep _) => "RecursionError"
  | yaml problem => problem.kind
  | config problem => problem.kind

/-- What a failure says. -/
def argument : Failure → String
  | service _ text => text
  | numeral refusal => refusal.message
  | notTextChannel channelId => s!"Channel {channelId} is not a text channel"
  | notDirective shown => s!"Unhandled directive: {shown}"
  | notFeedback shown => s!"Not a feedback directive: {shown}"
  | notWork shown => s!"Unknown work item: {shown}"
  | disk refusal => refusal.message
  | undecodable => "the text is not in UTF-8"
  | unencodable _ => "surrogates not allowed"
  | json refusal => refusal.message
  | namelessPath shown => s!"PosixPath({Text.quoted shown}) has an empty name"
  | yaml problem => problem.message
  | config problem => problem.message

/-- The message of a failure. The text of a failed look-up is a key, which is shown quoted. -/
def message : Failure → String
  | service kind text => if kind = "KeyError" then Text.quoted text else text
  | f => f.argument

/-- Shows a failure with its kind. -/
def describe : Failure → String
  | disk refusal =>
    s!"{refusal.cause.kind}({refusal.cause.code}, {Text.quoted refusal.cause.text})"
  | unencodable text =>
    s!"UnicodeEncodeError('utf-8', {text.quoted}, {text.loneStart}, {text.loneEnd}, " ++
      "'surrogates not allowed')"
  | f => s!"{f.kind}({Text.quoted f.argument})"

/-- The kinds of failures that say that a value is of no use. -/
def valueErrorKinds : List String :=
  ["ValueError", "UnicodeError", "UnicodeDecodeError", "UnicodeEncodeError",
    "UnicodeTranslateError", "JSONDecodeError"]

/-- Whether a failure says that a value is of no use, whatever kind of value it is. -/
def isValueError (f : Failure) : Bool := valueErrorKinds.contains f.kind

end Failure

end ChatRelay
