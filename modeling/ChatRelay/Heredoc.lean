import ChatRelay.Directive
import ChatRelay.Text.Lines

/-!
# Heredocs

A message of several lines is written as a heredoc: an opening line that names a delimiter, the
lines of the message, and the delimiter alone on a line. While a heredoc is open its lines are
held as they are; ending it turns them into one message and leaves nothing behind.
-/

namespace ChatRelay

namespace Heredoc

/-- Whether a heredoc is for the working channel or for a named one. -/
inductive Kind where
  | send
  | sendTo
  deriving DecidableEq, Repr, Inhabited

/-- What an opening line says: the delimiter, the kind, and the channel of the kind `sendTo`. -/
structure Opener where
  delimiter : String
  kind : Kind
  channel : Option String
  deriving DecidableEq, Repr, Inhabited

/-- The directive that a heredoc with this opener and this message stands for. Only a heredoc of
the kind `sendTo` with a channel that is not empty is for another channel. -/
def Opener.directive (o : Opener) (message : String) : Directive :=
  match o.kind, o.channel with
  | .sendTo, some channel => if channel = "" then .send message else .sendTo channel message
  | _, _ => .send message

end Heredoc

/-- The opener of the open heredoc, if one is open, and the lines held, the last one first. -/
structure Heredoc where
  opener : Option Heredoc.Opener := none
  held : List String := []
  deriving DecidableEq, Repr, Inhabited

namespace Heredoc

/-- No heredoc is open and no line is held. -/
def closed : Heredoc := {}

/-- Whether a heredoc is open. -/
def isOpen (h : Heredoc) : Bool := h.opener.isSome

/-- The delimiter that ends the open heredoc. -/
def delimiter? (h : Heredoc) : Option String := h.opener.map (·.delimiter)

/-- Opens a heredoc; what was held before is dropped. -/
def start (_ : Heredoc) (o : Opener) : Heredoc := { opener := some o, held := [] }

/-- Holds one more line. -/
def addLine (h : Heredoc) (line : String) : Heredoc := { h with held := line :: h.held }

/-- The message that the held lines make. -/
def message (h : Heredoc) : String := Text.joinLines h.held.reverse

/-- The directive that ending the heredoc now gives. Without an opener the held lines are a
message for the working channel. -/
def directive (h : Heredoc) : Directive :=
  match h.opener with
  | some o => o.directive h.message
  | none => .send h.message

end Heredoc

end ChatRelay
