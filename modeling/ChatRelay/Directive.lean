import ChatRelay.Text.Quoted

/-!
# Directives

An agent writes text, and every line of it is one directive to the relay: a line to post, a file
to attach, a command on a message of the channel, a message of its own, or nothing at all. Two
kinds of directive ask a question, and their answer is the next thing that the agent is told:
the history of a channel, and the execution of a message.

`describe` shows a directive in full, for messages that refuse it.
-/

namespace ChatRelay

/-- A request for `count` messages of a channel, after the newest `offset` ones. Without a channel
it is the working channel. -/
structure HistoryRequest where
  count : Int := 10
  channel : Option String := none
  offset : Int := 0
  deriving DecidableEq, Repr, Inhabited

/-- One directive of an agent. -/
inductive Directive where
  /-- A line of text to post. -/
  | text (content : String)
  /-- A file to attach to the posted text. -/
  | media (path : String)
  /-- Emojis to put on the posted text. -/
  | reactions (emojis : List String)
  /-- An emoji to put on a message, or to take off it. -/
  | reaction (messageId emoji : String) (remove : Bool)
  /-- A question for messages of a channel. -/
  | history (request : HistoryRequest)
  /-- A message to delete. -/
  | delete (messageId : String)
  /-- A message to be worked on next. -/
  | exec (messageId : String)
  /-- A message to send to the working channel. -/
  | send (message : String)
  /-- A message to send to another channel. -/
  | sendTo (channel message : String)
  /-- Nothing. -/
  | nop
  deriving DecidableEq, Repr, Inhabited

/-- A directive that asks for something to be told to the agent. -/
inductive Feedback where
  | history (request : HistoryRequest)
  | exec (messageId : String)
  deriving DecidableEq, Repr, Inhabited

/-- The question that a directive asks, if it asks one. -/
def Directive.feedback? : Directive → Option Feedback
  | .history request => some (.history request)
  | .exec messageId => some (.exec messageId)
  | _ => none

/-- The directive that asks a question. -/
def Feedback.directive : Feedback → Directive
  | .history request => .history request
  | .exec messageId => .exec messageId

/-- A directive asks a question exactly where it is the directive of that question. -/
theorem Directive.feedback?_eq_some_iff {d : Directive} {f : Feedback} :
    d.feedback? = some f ↔ d = f.directive := by
  cases d <;> cases f <;> simp [Directive.feedback?, Feedback.directive]

/-- The name of a question in messages. -/
def Feedback.kindName : Feedback → String
  | .history _ => "HistoryDirective"
  | .exec _ => "ExecDirective"

/-- An optional text in messages; an absent one shows as `None`. -/
def orNone : Option String → String
  | none => "None"
  | some s => s

namespace Directive

/-- Shows the fields of a directive behind its name. -/
def showFields (name : String) (fields : List (String × String)) : String :=
  name ++ "(" ++ ", ".intercalate (fields.map fun field => field.1 ++ "=" ++ field.2) ++ ")"

/-- Shows a truth value. -/
def showBool (b : Bool) : String := if b then "True" else "False"

/-- Shows a directive in full. -/
def describe : Directive → String
  | text content => showFields "TextDirective" [("content", Text.quoted content)]
  | media path => showFields "MediaDirective" [("file_path", Text.quoted path)]
  | reactions emojis =>
    showFields "ReactionsDirective"
      [("emojis", "[" ++ ", ".intercalate (emojis.map Text.quoted) ++ "]")]
  | reaction messageId emoji remove =>
    showFields "ReactionDirective"
      [("message_id", Text.quoted messageId), ("emoji", Text.quoted emoji),
        ("remove", showBool remove)]
  | history request =>
    showFields "HistoryDirective"
      [("count", toString request.count), ("channel_id", orNone (request.channel.map Text.quoted)),
        ("offset", toString request.offset)]
  | delete messageId => showFields "DeleteDirective" [("message_id", Text.quoted messageId)]
  | exec messageId => showFields "ExecDirective" [("message_id", Text.quoted messageId)]
  | send message => showFields "SendDirective" [("message", Text.quoted message)]
  | sendTo channel message =>
    showFields "SendToDirective"
      [("channel", Text.quoted channel), ("message", Text.quoted message)]
  | nop => "NopDirective()"

end Directive

end ChatRelay
