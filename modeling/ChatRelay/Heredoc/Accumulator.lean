import ChatRelay.Heredoc

/-!
# Heredocs by single calls

A heredoc may also be gathered by single calls, which come in any order: a start, a line to hold,
and an end, which gives a directive. Lines can be added when nothing was started, a start can
interrupt another one, and an end can come at any time. Four things are kept apart, and a start and
an end set all of them.
-/

namespace ChatRelay.Heredoc

/-- What is held of a heredoc that is gathered by calls: its delimiter while it is open, its lines,
its kind and its channel. -/
structure Accumulator where
  delimiter : Option String := none
  lines : List String := []
  kind : String := "send"
  channel : Option String := none
  deriving DecidableEq, Repr, Inhabited

namespace Accumulator

/-- A call. The kind of a start is a name; every other name than `sendto` stands for a heredoc for
the working channel. -/
inductive Call where
  | start (delimiter kind : String) (channel : Option String)
  | addLine (line : String)
  | finish
  deriving DecidableEq, Repr, Inhabited

/-- Whether a heredoc is open. -/
def isActive (a : Accumulator) : Bool := a.delimiter.isSome

/-- The directive for what is held. Only the kind `sendto` with a channel that is not empty is for
a channel. -/
def directive (a : Accumulator) : Directive :=
  match a.channel with
  | some channel =>
    if a.kind = "sendto" ∧ channel ≠ "" then .sendTo channel (Text.joinLines a.lines)
    else .send (Text.joinLines a.lines)
  | none => .send (Text.joinLines a.lines)

/-- What is held after a call. -/
def call (a : Accumulator) : Call → Accumulator
  | .start delimiter kind channel =>
    { a with delimiter := some delimiter, kind := kind, channel := channel, lines := [] }
  | .addLine line => { a with lines := a.lines ++ [line] }
  | .finish => { a with delimiter := none, lines := [], kind := "send", channel := none }

/-- What a call gives; only an end gives a directive. -/
def answer? (a : Accumulator) : Call → Option Directive
  | .finish => some a.directive
  | .start _ _ _ | .addLine _ => none

end Accumulator

end ChatRelay.Heredoc
