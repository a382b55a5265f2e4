import ChatRelay.Dialogue
import ChatRelay.Message

/-!
# The chat platform

What the relay asks of the chat platform. Channels, messages and users are named by texts.
-/

namespace ChatRelay.Chat

/-- A request to the chat platform. -/
inductive Request where
  /-- The user that the relay itself is. -/
  | ownUserId
  /-- The text channel that a number or a name refers to. -/
  | resolve (ref : String)
  /-- Sends a message with files. -/
  | send (channel content : String) (files : List String)
  /-- Puts an emoji on a message. -/
  | react (channel message emoji : String)
  /-- Takes the own emoji off a message. -/
  | unreact (channel message emoji : String)
  /-- One message of a channel. -/
  | fetch (channel message : String)
  /-- The newest messages of a channel, or those older than a message. -/
  | history (channel : String) (limit : Nat) (before : Option String)
  /-- Deletes a message. -/
  | delete (channel message : String)
  deriving DecidableEq, Repr, Inhabited

/-- A text channel: its id and its name. -/
structure Channel where
  id : String
  name : String
  deriving DecidableEq, Repr, Inhabited

/-- The answer to a request. A sent message may have no id. -/
def Value : Request → Type
  | .ownUserId => String
  | .resolve _ => Option Channel
  | .send _ _ _ => Option String
  | .react _ _ _ => Unit
  | .unreact _ _ _ => Unit
  | .fetch _ _ => Message
  | .history _ _ _ => List Message
  | .delete _ _ => Unit

/-- The chat platform as a service. -/
def service : Service := ⟨Request, Value⟩

end ChatRelay.Chat
