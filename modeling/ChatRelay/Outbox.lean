import ChatRelay.Chat
import ChatRelay.Chunk
import ChatRelay.Directive
import ChatRelay.Text.Blank

/-!
# The outbox

Lines of text, files and emojis are held back and posted together, as one message where the
length allows it. Every directive of another kind posts first what was held back, so the order in
which the agent writes is the order on the chat platform. A failure of the chat platform is
logged and ends nothing but the directive that it concerns.

`play` carries out directives up to the first question and returns the question with what is
still held back; `dispatch` also posts that.
-/

namespace ChatRelay

/-- Where a unit of work takes place: its channel, and the channel that its output goes to. -/
structure Place where
  channelId : String
  channelName : String := ""
  outputChannelId : String
  deriving DecidableEq, Repr, Inhabited

/-- The place in a channel whose output goes to a log channel, unless that is absent or empty. -/
def Place.of (channelId channelName : String) (logChannel : Option String) : Place :=
  { channelId
    channelName
    outputChannelId :=
      match logChannel with
      | some id => if id = "" then channelId else id
      | none => channelId }

/-- Output that is held back. -/
structure Pending where
  lines : List String := []
  files : List String := []
  emojis : List String := []
  deriving DecidableEq, Repr, Inhabited

namespace Pending

/-- The text that is held back. -/
def text (p : Pending) : String := "\n".intercalate p.lines

/-- The chunks that the text is posted in; a blank text is not posted. -/
def chunks (p : Pending) : List String :=
  if Text.allBlank p.text then [] else Chunk.split Chunk.maxLength p.text

/-- The messages to send: the chunks of the text with the files at the first, or the files alone
when there is no text. -/
def messages (p : Pending) : List (String × List String) :=
  match p.chunks with
  | chunk :: rest => (chunk, p.files) :: rest.map fun chunk => (chunk, [])
  | [] => if p.files.isEmpty then [] else [("", p.files)]

/-- The first characters of the text, on one line. -/
def preview (p : Pending) : String :=
  String.ofList ((p.text.toList.take 80).flatMap fun c => if c = '\n' then ['\\', 'n'] else [c])

end Pending

namespace Outbox

/-- Work on the chat platform. -/
abbrev Act (α : Type) := Dialogue Chat.service α

/-- Sends messages until one fails, and returns the id of the last one sent. -/
def sendAll (channel : String) (last : Option String) :
    List (String × List String) → Act (Except Failure (Option String))
  | [] => .done (.ok last)
  | m :: rest =>
    .ask (.send channel m.1 m.2) fun
      | .error e => .done (.error e)
      | .ok id => sendAll channel id rest

/-- Puts emojis on a message, each whatever becomes of the others. -/
def reactAll (channel message : String) : List String → Act Unit
  | [] => .done ()
  | emoji :: rest =>
    .ask (.react channel message emoji) fun
      | .error e =>
        .say s!"[reactions] Failed to react with {emoji}: {e.message}"
          (reactAll channel message rest)
      | .ok _ => reactAll channel message rest

/-- Posts what is held back and puts its emojis on the last message sent. -/
def flush (place : Place) (p : Pending) : Act Unit :=
  if p.messages.isEmpty then .done ()
  else .say s!"[flush] -> {place.outputChannelId}: \"{p.preview}\"" do
    match ← sendAll place.outputChannelId none p.messages with
    | .error e => .note s!"[flush] send failed: {e.message}"
    | .ok none => .done ()
    | .ok (some id) => reactAll place.outputChannelId id p.emojis

/-- Puts an emoji on a message of the channel, or takes it off. -/
def reaction (place : Place) (messageId emoji : String) (remove : Bool) : Act Unit :=
  .ask (if remove then .unreact place.channelId messageId emoji
      else .react place.channelId messageId emoji) fun
    | .error e => .note s!"[!discord reaction] Error: {e.message}"
    | .ok _ => .done ()

/-- Deletes a message of the channel, provided that the relay wrote it. -/
def delete (place : Place) (messageId : String) : Act Unit :=
  .ask (.fetch place.channelId messageId) fun
    | .error e => .note s!"[!discord delete] Error: {e.message}"
    | .ok (message : Message) => .ask .ownUserId fun
      | .error e => .note s!"[!discord delete] Error: {e.message}"
      | .ok (own : String) =>
        if message.authorId = own then
          .ask (.delete place.channelId messageId) fun
            | .error e => .note s!"[!discord delete] Error: {e.message}"
            | .ok _ => .done ()
        else
          .note (s!"[!discord delete] Cannot delete message {messageId}: " ++
            "not bot's own message")

/-- Sends a message of the agent, in chunks; the tag stands before what is logged. -/
def sendMessage (tag channel message : String) : Act Unit :=
  if Text.allBlank message then .note s!"{tag} empty message skipped"
  else do
    let chunks := Chunk.split Chunk.maxLength message
    match ← sendAll channel none (chunks.map fun chunk => (chunk, [])) with
    | .error e => .note s!"{tag} Error: {e.message}"
    | .ok _ => .done ()

/-- Sends a message to the channel that a reference names. -/
def sendTo (ref message : String) : Act Unit :=
  .ask (.resolve ref) fun
    | .error e => .note s!"[!discord sendto] Error resolving {ref}: {e.message}"
    | .ok none => .note s!"[!discord sendto] Channel not found: {ref}"
    | .ok (some (channel : Chat.Channel)) => sendMessage "[!discord sendto]" channel.id message

/-- Carries out directives up to the first question. Returns the question, before which nothing
is held back any more, or else what is held back at the end. -/
def play (place : Place) (p : Pending) : List Directive → Act (Pending × Option Feedback)
  | [] => .done (p, none)
  | .text content :: rest => play place { p with lines := p.lines ++ [content] } rest
  | .media path :: rest => play place { p with files := p.files ++ [path] } rest
  | .reactions emojis :: rest => play place { p with emojis := p.emojis ++ emojis } rest
  | .nop :: rest => play place p rest
  | .reaction messageId emoji remove :: rest => do
    flush place p
    reaction place messageId emoji remove
    play place {} rest
  | .delete messageId :: rest => do
    flush place p
    delete place messageId
    play place {} rest
  | .send message :: rest => do
    flush place p
    sendMessage "[!discord send]" place.channelId message
    play place {} rest
  | .sendTo channel message :: rest => do
    flush place p
    sendTo channel message
    play place {} rest
  | .history request :: _ => do
    flush place p
    return ({}, some (.history request))
  | .exec messageId :: _ => do
    flush place p
    return ({}, some (.exec messageId))

/-- Carries out directives up to the first question, and returns the question. -/
def dispatch (place : Place) (ds : List Directive) : Act (Option Feedback) := do
  match ← play place {} ds with
  | (_, some question) => return some question
  | (p, none) =>
    flush place p
    return none

/-- Carries out the directives before a value that is none, which ends the work unless a question
ends it before. -/
def dispatchUntil (place : Place) (ds : List Directive) (shown : String) :
    Act (Except Failure (Option Feedback)) := do
  match ← play place {} ds with
  | (_, some question) => return .ok (some question)
  | (_, none) => return .error (.notDirective shown)

/-- Fetches the message that is to be worked on next, if it can be fetched. -/
def fetchForExec (place : Place) (messageId : String) : Act (Option Message) :=
  .ask (.fetch place.channelId messageId) fun
    | .error e =>
      .say s!"[!discord exec] Error fetching message {messageId}: {e.message}" (.done none)
    | .ok (message : Message) => .done (some message)

end Outbox

end ChatRelay
