import ChatRelay.Attempt
import ChatRelay.Platform
import ChatRelay.Text.Numeral

/-!
# Discord as the chat platform

How every request of the relay to its chat platform is answered by Discord. Channels and messages
are named by integer literals there, and only text channels are used. A reference of digits is
the number of a channel, never its name.
-/

namespace ChatRelay.Discord

open Text

/-- Makes one request to Discord. -/
def ask (q : Request) : Attempt Platform.service (Value q) :=
  Attempt.ask (P := Platform.service) (.discord q)

/-- The number that a text stands for. -/
def numberOf (s : String) : Attempt Platform.service Int :=
  Attempt.ofExcept ((readInt s).mapError .numeral)

/-- The channel with a number, known or fetched. -/
def findChannel (id : Int) : Attempt Platform.service Channel := do
  match ← ask (.knownChannel id) with
  | some (channel : Channel) => return channel
  | none => ask (.fetchChannel id)

/-- The text channel that is named by its number. -/
def textChannel (channelId : String) : Attempt Platform.service Channel := do
  let channel ← findChannel (← numberOf channelId)
  if channel.isText then return channel else throw (.notTextChannel channelId)

/-- The channel and the message in it that are named by their numbers. -/
def messageOf (channelId messageId : String) : Attempt Platform.service (Channel × Message) := do
  let channel ← textChannel channelId
  let m ← ask (.fetchMessage channel.id (← numberOf messageId))
  return (channel, m)

/-- Whether a reference is the number of a channel. -/
def isNumber (ref : String) : Bool := !ref.isEmpty && ref.toList.all isDigitSign

/-- Whether a failure says that there is no such text channel for the relay. -/
def meansNoChannel (f : Failure) : Bool :=
  f.isValueError || status? f = some .notFound || status? f = some .forbidden

/-- The channel as the relay sees it. -/
def Channel.toChannel (c : Channel) : Chat.Channel := ⟨toString c.id, c.shownName⟩

/-- The first known text channel with a name. -/
def named? (ref : String) (channels : List Channel) : Option Channel :=
  channels.find? fun c => c.isText && c.name == some ref

/-- The text channel that a number or a name refers to. -/
def resolve (ref : String) : Attempt Platform.service (Option Chat.Channel) :=
  if isNumber ref then
    tryCatch (do return some (← textChannel ref).toChannel) fun f =>
      if meansNoChannel f then return none else throw f
  else do
    let channels ← ask .knownChannels
    return (named? ref channels).map (·.toChannel)

/-- The mark at the start of the name of a file that is hidden until it is asked for. -/
def spoilerMark : List Char := "SPOILER_".toList

/-- What is left of a name without the marks at its start. -/
def dropMarks (name : List Char) : List Char :=
  match name with
  | [] => []
  | c :: rest =>
    if spoilerMark.isPrefixOf (c :: rest) then dropMarks (rest.drop (spoilerMark.length - 1))
    else c :: rest
termination_by name.length
decreasing_by simp only [List.length_drop, List.length_cons]; omega

/-- The name that a file is sent under: the last part of its path, where several marks at the
start count as one. -/
def fileName (path : String) : String :=
  let name := (path.toList.reverse.takeWhile (· ≠ '/')).reverse
  String.ofList (if spoilerMark.isPrefixOf name then spoilerMark ++ dropMarks name else name)

/-- Opens files, the first one first. -/
def openFiles : List String → Attempt Platform.service Unit
  | [] => return ()
  | path :: rest => do
    let _ ← Attempt.ask (P := Platform.service) (.disk (.read path))
    openFiles rest

/-- Sends a message. A message with files may have no content. -/
def send (channelId content : String) (files : List String) :
    Attempt Platform.service (Option String) := do
  let channel ← textChannel channelId
  openFiles files
  let shown := if content = "" ∧ files ≠ [] then none else some content
  let (id : Int) ← ask (.send channel.id shown (files.map fileName))
  return some (toString id)

/-- The messages of a channel before another one, newest first. -/
def history (channelId : String) (limit : Nat) (before : Option String) :
    Attempt Platform.service (List ChatRelay.Message) := do
  let channel ← textChannel channelId
  let bound ← match before.filter (· ≠ "") with
    | none => pure none
    | some id => some <$> numberOf id
  let (ms : List Message) ← ask (.history channel.id limit bound)
  return ms.map (·.toMessage)

/-- How a request to the chat platform is answered. -/
def reply : (q : Chat.Request) → Attempt Platform.service (Chat.Value q)
  | .ownUserId => do
    let (id : Option Int) ← ask .ownUser
    return (id.map toString).getD ""
  | .resolve ref => resolve ref
  | .send channelId content files => send channelId content files
  | .react channelId messageId emoji => do
    let found ← messageOf channelId messageId
    ask (.addReaction found.1.id found.2.id emoji)
  | .unreact channelId messageId emoji => do
    let found ← messageOf channelId messageId
    let own ← ask .ownUser
    ask (.removeReaction found.1.id found.2.id emoji own)
  | .fetch channelId messageId => do
    let found ← messageOf channelId messageId
    return found.2.toMessage
  | .history channelId limit before => history channelId limit before
  | .delete channelId messageId => do
    let found ← messageOf channelId messageId
    ask (.delete found.1.id found.2.id)

end ChatRelay.Discord
