import ChatRelay.Dialogue
import ChatRelay.Discord.Refusal
import ChatRelay.Incoming
import ChatRelay.Message

/-!
# Discord

What the relay asks of Discord. Channels, messages and users have numbers there. Some channels
are known to the connection, and the others can be fetched; only some of them are text channels.
-/

namespace ChatRelay.Discord

/-- A user. -/
structure User where
  id : Int
  name : String
  isBot : Bool := false
  deriving DecidableEq, Repr, Inhabited

/-- A message. -/
structure Message where
  id : Int
  author : User
  content : String
  createdAt : Timestamp
  attachments : List Incoming.Attachment := []
  deriving DecidableEq, Repr, Inhabited

/-- A channel. There are channels without a name. -/
structure Channel where
  id : Int
  name : Option String
  isText : Bool := true
  deriving DecidableEq, Repr, Inhabited

/-- The message as the relay sees it. -/
def Message.toMessage (m : Message) : ChatRelay.Message :=
  { id := toString m.id
    author := m.author.name
    authorId := toString m.author.id
    content := m.content
    createdAt := m.createdAt
    attachments := m.attachments.map (·.url) }

/-- The channel as the relay sees it. -/
def Channel.shownName (c : Channel) : String := c.name.getD ""

/-- A request to Discord. -/
inductive Request where
  /-- The user that the relay itself is, once it is logged in. -/
  | ownUser
  /-- A channel that is known to the connection. -/
  | knownChannel (id : Int)
  /-- All channels that are known to the connection. -/
  | knownChannels
  /-- A channel that is not known. -/
  | fetchChannel (id : Int)
  /-- Sends a message with files, given by their names. -/
  | send (channel : Int) (content : Option String) (files : List String)
  | fetchMessage (channel message : Int)
  /-- The newest messages of a channel, or those older than a message. -/
  | history (channel : Int) (limit : Nat) (before : Option Int)
  | addReaction (channel message : Int) (emoji : String)
  /-- Takes an emoji of a user off a message. -/
  | removeReaction (channel message : Int) (emoji : String) (user : Option Int)
  | delete (channel message : Int)
  deriving DecidableEq, Repr, Inhabited

/-- The answer to a request. -/
def Value : Request → Type
  | .ownUser => Option Int
  | .knownChannel _ => Option Channel
  | .knownChannels => List Channel
  | .fetchChannel _ => Channel
  | .send _ _ _ => Int
  | .fetchMessage _ _ => Message
  | .history _ _ _ => List Message
  | .addReaction _ _ _ => Unit
  | .removeReaction _ _ _ _ => Unit
  | .delete _ _ => Unit

end ChatRelay.Discord
