/-!
# Incoming events

The events of the chat platform that may become units of work: a message that somebody wrote, and
a reaction that somebody put on a message.
-/

namespace ChatRelay

namespace Incoming

/-- A file attached to a message. -/
structure Attachment where
  url : String
  fileName : String
  deriving DecidableEq, Repr, Inhabited

/-- A message that somebody wrote. -/
structure Message where
  messageId : String
  channelId : String
  channelName : String
  authorId : String
  content : String
  isBot : Bool := false
  attachments : List Attachment := []
  deriving DecidableEq, Repr, Inhabited

/-- A reaction that somebody put on a message. -/
structure Reaction where
  emoji : String
  messageId : String
  channelId : String
  channelName : String
  userId : String
  isBot : Bool := false
  deriving DecidableEq, Repr, Inhabited

end Incoming

/-- An event of the chat platform. -/
inductive Incoming where
  | message (m : Incoming.Message)
  | reaction (r : Incoming.Reaction)
  deriving DecidableEq, Repr, Inhabited

namespace Incoming

/-- The user behind an event. -/
def userId : Incoming → String
  | message m => m.authorId
  | reaction r => r.userId

/-- Whether a bot is behind an event. -/
def isBot : Incoming → Bool
  | message m => m.isBot
  | reaction r => r.isBot

/-- The channel of an event. -/
def channelId : Incoming → String
  | message m => m.channelId
  | reaction r => r.channelId

/-- The name of the channel of an event. -/
def channelName : Incoming → String
  | message m => m.channelName
  | reaction r => r.channelName

end Incoming

end ChatRelay
