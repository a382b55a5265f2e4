import ChatRelay.Directive
import ChatRelay.Discord

/-!
# The connection to Discord

What the relay does when something happens on Discord. Messages and reactions in text channels
are handed to the engine, and the operator may reset the session of a channel with a command.
-/

namespace ChatRelay.Discord

/-- An emoji. A custom one has a number, and the name of one that was deleted is not known. -/
structure Emoji where
  name : Option String
  id : Option Int := none
  animated : Bool := false
  deriving DecidableEq, Repr, Inhabited

/-- The text of an emoji: its name, or else a form that names it by its number. -/
def Emoji.text (e : Emoji) : String :=
  match e.name.filter (· ≠ ""), e.id with
  | some name, _ => name
  | none, none => "_"
  | none, some id => (if e.animated then "<a:_:" else "<:_:") ++ toString id ++ ">"

/-- A reaction that somebody has put on a message. -/
structure Reaction where
  channel : Int
  message : Int
  user : Int
  /-- Whether the member who reacted is a bot, where the member is known. -/
  isBotMember : Option Bool := none
  emoji : Emoji
  deriving DecidableEq, Repr, Inhabited

/-- Something that happens on Discord. -/
inductive Event where
  /-- The connection stands, for the user with this name. -/
  | ready (user : Option String)
  | message (channel : Channel) (m : Message)
  | reaction (r : Reaction)
  /-- A user calls the command that resets the session of a channel. -/
  | clear (user : Int) (channel : Option Int)
  deriving DecidableEq, Repr, Inhabited

/-- Something that the connection does. -/
inductive Action where
  /-- Hands an event to the engine. -/
  | receive (item : Incoming)
  /-- Resets the session of a channel. -/
  | reset (channel : String)
  /-- Answers the call of a command, perhaps so that only the caller sees the answer. -/
  | respond (text : String) (hidden : Bool)
  | log (line : String)
  deriving DecidableEq, Repr, Inhabited

/-- The connection: the operator, whether there is an engine, the own user, and the channels that
are known. -/
structure Client where
  operator : String
  hasEngine : Bool := true
  ownUser : Option Int := none
  known : List Channel := []
  deriving Repr, Inhabited

namespace Client

/-- The commands that are registered, with their descriptions. -/
def commands : List (String × String) := [("clear", "Reset this channel's agent session")]

/-- A message as an event for the engine. -/
def incoming (channel : Channel) (m : Message) : Incoming.Message :=
  { messageId := toString m.id
    channelId := toString channel.id
    channelName := channel.shownName
    authorId := toString m.author.id
    content := m.content
    isBot := m.author.isBot
    attachments := m.attachments }

/-- A reaction as an event for the engine. Reactions outside of known text channels are none.
Without a known member only the own user counts as a bot. -/
def incomingReaction? (c : Client) (r : Reaction) : Option Incoming.Reaction :=
  match c.known.find? fun channel => channel.id == r.channel with
  | none => none
  | some channel =>
    if !channel.isText then none
    else some
      { emoji := r.emoji.text
        messageId := toString r.message
        channelId := toString r.channel
        channelName := channel.shownName
        userId := toString r.user
        isBot := r.isBotMember.getD (c.ownUser = some r.user) }

/-- What the connection does when something happens. -/
def actions (c : Client) : Event → List Action
  | .ready user => [.log s!"[Discord] logged in as {orNone user}"]
  | .message channel m =>
    if c.hasEngine && channel.isText then [.receive (.message (incoming channel m))] else []
  | .reaction r =>
    if c.hasEngine then ((c.incomingReaction? r).map fun r => .receive (.reaction r)).toList else []
  | .clear user channel =>
    if toString user ≠ c.operator then [.respond "Not allowed." true]
    else
      (if c.hasEngine then [.reset (orNone (channel.map toString))] else []) ++
        [.respond "Session cleared." false]

/-- The failure of declaring the commands a second time. -/
def alreadyDeclared : Failure :=
  .service "CommandAlreadyRegistered" ("Command " ++ Text.quoted "clear" ++ " already registered.")

/-- What is logged when the commands were registered, or could not be. Only a refusal of Discord
is put up with. -/
def registered : Except Failure Unit → Except Failure String
  | .ok () => .ok "[Discord] registered slash commands"
  | .error f =>
    if (status? f).isSome then .ok s!"[Discord] failed to register slash commands: {f.message}"
    else .error f

end Client

end ChatRelay.Discord
