import ChatRelay.Chat
import ChatRelay.Rehearsal.Partner
import ChatRelay.Rehearsal.Rules

/-!
# A scripted chat platform

The platform holds the messages of its channels, newest first, and follows the rules of a script.
-/

namespace ChatRelay.Rehearsal

/-- A scripted chat platform. -/
structure ChatRoom where
  ownUserId : String := "999"
  channels : List Chat.Channel := []
  /-- The messages of the channels that have any, newest first. -/
  messages : List (String × List Message) := []
  rules : Rules := {}
  /-- The most messages of a page. -/
  pageCap : Option Nat := none
  /-- The number of messages of a page, whatever was asked for. -/
  pageForce : Option Nat := none
  /-- Whether sent messages have no ids. -/
  nullIds : Bool := false
  /-- The number of messages sent. -/
  sent : Nat := 0
  deriving Inhabited

namespace ChatRoom

/-- A channel full of messages of the operator, a minute apart. -/
def crowd (n : Nat) : List Message :=
  (List.range n).map fun (i : Nat) =>
    { id := toString ((10000 : Int) - Int.ofNat i)
      author := "operator"
      authorId := "42"
      content := s!"msg {n - i}"
      createdAt := Timestamp.newYear2024.addSeconds (60 * (n - i))
      attachments := [] }

/-- The method of a request and its arguments. The own user is not asked for through a method. -/
def methodOf : Chat.Request → Option (String × List Json)
  | .ownUserId => none
  | .resolve ref => some ("resolve", [.text ref])
  | .send channel content files =>
    some ("send", [.text channel, .text content, .list (files.map Json.plain)])
  | .react channel message emoji => some ("react", [.text channel, .text message, .text emoji])
  | .unreact channel message emoji => some ("unreact", [.text channel, .text message, .text emoji])
  | .fetch channel message => some ("fetch", [.text channel, .text message])
  | .history channel limit before =>
    some ("history", [.text channel, .integer limit, (before.map Json.plain).getD .null])
  | .delete channel message => some ("delete", [.text channel, .text message])

/-- The messages of a channel. -/
def messagesOf (r : ChatRoom) (channel : String) : List Message :=
  ((r.messages.find? fun m => m.1 == channel).map (·.2)).getD []

/-- The platform with other messages in a channel. -/
def setMessages (r : ChatRoom) (channel : String) (ms : List Message) : ChatRoom :=
  { r with messages := (channel, ms) :: r.messages.filter fun m => m.1 != channel }

/-- The messages behind the message with an id, which are none if it is not there. -/
def olderThan (ms : List Message) : Option String → List Message
  | none => ms
  | some id => (ms.dropWhile fun m => m.id != id).drop 1

/-- The page of a channel. -/
def page (r : ChatRoom) (channel : String) (limit : Nat) (before : Option String) : List Message :=
  let size := r.pageForce.getD ((r.pageCap.map (min limit)).getD limit)
  (olderThan (r.messagesOf channel) before).take size

/-- The channel that a reference refers to: by its id, or else by its name. -/
def resolve (r : ChatRoom) (ref : String) : Option Chat.Channel :=
  (r.channels.find? fun c => c.id == ref).or (r.channels.find? fun c => c.name == ref)

/-- The message that is sent next. -/
def nextMessage (r : ChatRoom) (content : String) (files : List String) : Message :=
  { id := toString (5001 + r.sent)
    author := "bot"
    authorId := r.ownUserId
    content
    createdAt := Timestamp.newYear2024.nextDay.addSeconds (r.sent + 1)
    attachments := files }

/-- What a request does when it does not fail. -/
def act (r : ChatRoom) : (q : Chat.Request) → Chat.service.Reply q × ChatRoom
  | .ownUserId => (.ok r.ownUserId, r)
  | .resolve ref => (.ok (r.resolve ref), r)
  | .send channel content files =>
    let m := r.nextMessage content files
    (.ok (if r.nullIds then none else some m.id),
      { r.setMessages channel (m :: r.messagesOf channel) with sent := r.sent + 1 })
  | .react _ _ _ => (.ok (), r)
  | .unreact _ _ _ => (.ok (), r)
  | .fetch channel message =>
    match (r.messagesOf channel).find? fun m => m.id == message with
    | some m => (.ok m, r)
    | none => (.error (.service "LookupError" s!"Unknown Message {message}"), r)
  | .history channel limit before => (.ok (r.page channel limit before), r)
  | .delete channel message =>
    (.ok (), r.setMessages channel ((r.messagesOf channel).filter fun m => m.id != message))

/-- A request arrives: the platform after that, the number of the request, and its record. -/
def arrive (r : ChatRoom) (q : Chat.Request) : ChatRoom × Nat × List Json :=
  match methodOf q with
  | none => (r, 0, [])
  | some (method, arguments) =>
    let counted := r.rules.arrive method
    ({ r with rules := counted.1 }, counted.2, [.list (.text method :: arguments)])

/-- The closed gate that a request waits for. -/
def barrier (r : ChatRoom) (gates : Gates) (n : Nat) (q : Chat.Request) : Option String :=
  (methodOf q).bind fun m => (r.rules.gatesOf m.1 n).find? fun g => !gates.isOpen g

/-- A request is answered. -/
def answer (r : ChatRoom) (n : Nat) (q : Chat.Request) : Chat.service.Reply q × ChatRoom :=
  match (methodOf q).bind fun m => r.rules.failure? m.1 n m.2 with
  | some failure => (.error failure, r)
  | none => r.act q

end ChatRoom

end ChatRelay.Rehearsal
