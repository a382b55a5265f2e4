import ChatRelay.Discord.Client
import ChatRelay.Rehearsal.Partner
import ChatRelay.Rehearsal.Rules

/-!
# A scripted Discord

A Discord of some channels with their messages, newest first, that follows the rules of a script.
-/

namespace ChatRelay.Rehearsal

/-- A channel of a scripted Discord. -/
structure GuildChannel where
  channel : Discord.Channel
  /-- Whether the connection knows the channel. -/
  isKnown : Bool := true
  /-- The status that fetching the channel is refused with. -/
  refusal : Option Discord.Status := none
  messages : List Discord.Message := []
  deriving Inhabited

/-- A scripted Discord. -/
structure Guild where
  ownUser : Option Int := some 999
  channels : List GuildChannel := []
  rules : Rules := {}
  /-- The number of messages sent. -/
  sent : Nat := 0
  /-- Whether the connection has declared its commands. -/
  hasCommands : Bool := false
  deriving Inhabited

namespace Guild

/-- An optional number in a record. -/
def optional (n : Option Int) : Json := (n.map Json.integer).getD .null

/-- The method of a request and its arguments, for requests that rules may be about. -/
def methodOf : Discord.Request → Option (String × List Json)
  | .send channel content files =>
    some ("send", [.integer channel, (content.map Json.plain).getD .null,
      .list (files.map Json.plain)])
  | .fetchMessage channel message => some ("fetch_message", [.integer channel, .integer message])
  | .history channel limit before =>
    some ("history", [.integer channel, .integer limit, optional before])
  | .addReaction channel message emoji =>
    some ("add_reaction", [.integer channel, .integer message, .text emoji])
  | .removeReaction channel message emoji user =>
    some ("remove_reaction", [.integer channel, .integer message, .text emoji, optional user])
  | .delete channel message => some ("delete", [.integer channel, .integer message])
  | _ => none

/-- The entries of the record for a request. -/
def entries (q : Discord.Request) : List Json :=
  match methodOf q, q with
  | some (method, arguments), _ => [.list (.text ("d." ++ method) :: arguments)]
  | none, .fetchChannel id => [.list [.text "d.fetch_channel", .integer id]]
  | none, _ => []

/-- The entry of the record for the commands that are registered. -/
def registration : List Json :=
  [.text "sync",
    .list (Discord.Client.commands.map fun c => .list [.text c.1, .text c.2])]

/-- The connection declares its commands, which it can do once, and registers them. Discord's
answer to that is given. The outcome comes with the new entries of the record. -/
def register (g : Guild) (answer : Except Failure Unit) :
    Except Failure String × List (List Json) × Guild :=
  if g.hasCommands then (.error Discord.Client.alreadyDeclared, [], g)
  else (Discord.Client.registered answer, [registration], { g with hasCommands := true })

/-- The channel with a number, known or not. -/
def channel? (g : Guild) (id : Int) : Option GuildChannel :=
  g.channels.find? fun c => c.channel.id == id

/-- The channels that the connection knows. -/
def knownChannels (g : Guild) : List Discord.Channel :=
  (g.channels.filter (·.isKnown)).map (·.channel)

/-- The messages of a channel. -/
def messagesOf (g : Guild) (id : Int) : List Discord.Message :=
  ((g.channel? id).map (·.messages)).getD []

/-- The messages of a channel, changed. -/
def changeMessages (g : Guild) (id : Int)
    (change : List Discord.Message → List Discord.Message) : Guild :=
  { g with channels := g.channels.map fun c =>
      if c.channel.id = id then { c with messages := change c.messages } else c }

/-- The message that is sent next. -/
def nextMessage (g : Guild) (content : Option String) : Discord.Message :=
  { id := 9001 + (g.sent : Int)
    author := { id := g.ownUser.getD 0, name := "bot", isBot := true }
    content := content.getD ""
    createdAt := Timestamp.newYear2024.nextDay }

/-- What a request does when it does not fail. -/
def act (g : Guild) : (q : Discord.Request) → Except Failure (Discord.Value q) × Guild
  | .ownUser => (.ok g.ownUser, g)
  | .knownChannel id => (.ok (g.knownChannels.find? fun c => c.id == id), g)
  | .knownChannels => (.ok g.knownChannels, g)
  | .fetchChannel id =>
    match g.channel? id with
    | none => (.error (Discord.refusal .notFound "Unknown Channel"), g)
    | some c =>
      match c.refusal with
      | some status => (.error (Discord.refusal status "denied"), g)
      | none => (.ok c.channel, g)
  | .send channel content _ =>
    let m := g.nextMessage content
    (.ok m.id, { g.changeMessages channel (m :: ·) with sent := g.sent + 1 })
  | .fetchMessage channel message =>
    match (g.messagesOf channel).find? fun m => m.id == message with
    | some m => (.ok m, g)
    | none => (.error (Discord.refusal .notFound "Unknown Message"), g)
  | .history channel limit before =>
    let older := match before with
      | none => g.messagesOf channel
      | some bound => (g.messagesOf channel).filter fun m => m.id < bound
    (.ok (older.take limit), g)
  | .addReaction _ _ _ => (.ok (), g)
  | .removeReaction _ _ _ _ => (.ok (), g)
  | .delete channel message =>
    (.ok (), g.changeMessages channel fun ms => ms.filter fun m => m.id != message)

/-- A request arrives: Discord after that, and the number of the request. -/
def arrive (g : Guild) (q : Discord.Request) : Guild × Nat :=
  match methodOf q with
  | none => (g, 0)
  | some (method, _) =>
    let counted := g.rules.arrive method
    ({ g with rules := counted.1 }, counted.2)

/-- The closed gate that a request waits for. -/
def barrier (g : Guild) (gates : Gates) (n : Nat) (q : Discord.Request) : Option String :=
  (methodOf q).bind fun m => (g.rules.gatesOf m.1 n).find? fun gate => !gates.isOpen gate

/-- A request is answered. -/
def answer (g : Guild) (n : Nat) (q : Discord.Request) : Except Failure (Discord.Value q) × Guild :=
  match (methodOf q).bind fun m => g.rules.failure? m.1 n m.2 with
  | some failure => (.error failure, g)
  | none => g.act q

end Guild

end ChatRelay.Rehearsal
