import ChatRelay.Attachment
import ChatRelay.Config
import ChatRelay.Conversation

/-!
# Units of work

A unit of work is one admitted event together with the profile of its channel. For a message its
attachments are fetched first; then a conversation is held with the session that the channel has
at that moment; in the end the fetched files are removed, whatever the outcome was.
-/

namespace ChatRelay

/-- An admitted event and the profile of its channel. -/
structure Work where
  item : Incoming
  profile : ChannelProfile
  deriving DecidableEq, Repr, Inhabited

namespace Job

/-- Where a unit of work stands. -/
inductive Phase where
  /-- The attachments of a message are being fetched. -/
  | fetching (m : Incoming.Message) (work : Dialogue Work.service (Except Failure (List String)))
  /-- The prompt is there, and the session of the channel is about to be asked for. -/
  | recalling (prompt : String)
  /-- The conversation is being held. -/
  | talking (c : Conversation)
  /-- The fetched files are being removed. -/
  | tidying (outcome : Except Failure Unit) (work : Dialogue Work.service (Except Failure Unit))
  /-- The work is over. -/
  | over (outcome : Except Failure Unit)

end Job

/-- A unit of work that is being done: the settings that hold for it, the event, the files fetched
for it, and its phase. -/
structure Job where
  settings : EngineSettings
  systemPrompt : Option String
  work : Work
  files : List String := []
  phase : Job.Phase

namespace Job

/-- The start of a unit of work. -/
def begin (settings : EngineSettings) (systemPrompt : Option String) (work : Work) : Job :=
  { settings
    systemPrompt
    work
    phase :=
      match work.item with
      | .message m =>
        .fetching m
          (Work.ofOutside (Attachment.download settings.temporaryDirectory m.attachments))
      | .reaction r => .recalling (Prompt.reaction r.emoji r.messageId r.channelId r.userId) }

/-- The work when the attachments were fetched, or could not be. -/
def fetched (j : Job) (m : Incoming.Message) : Except Failure (List String) → Job
  | .error e => { j with phase := .over (.error e) }
  | .ok files =>
    { j with
      files
      phase := .recalling
        (Prompt.message m.messageId j.work.profile.skill m.content m.channelId files) }

/-- What the conversation is held with, for the session that the channel has. Only a channel
without a session is told the system prompt. -/
def setup (j : Job) (session : Option String) : Conversation.Setup :=
  { place := Place.of j.work.item.channelId j.work.item.channelName j.work.profile.logChannel
    workdir := j.work.profile.workdir
    skill := j.work.profile.skill
    systemPrompt := if (session.getD "").isEmpty then j.systemPrompt else none
    maxDepth := j.settings.maxDepth
    maxTurns := j.settings.maxTurns }

/-- The conversation that the work consists of. -/
def conversation (j : Job) (prompt : String) (session : Option String) : Conversation :=
  { setup := j.setup session
    session
    phase := .prompting prompt }

/-- The work when the conversation is over: the files are left to be removed. -/
def talked (j : Job) (outcome : Except Failure Unit) : Job :=
  { j with phase := .tidying outcome (Work.ofOutside (Attachment.cleanup j.files)) }

/-- The work when the files were removed. A failure of that replaces the outcome. -/
def tidied (j : Job) (outcome : Except Failure Unit) : Except Failure Unit → Job
  | .error e => { j with phase := .over (.error e) }
  | .ok () => { j with phase := .over outcome }

/-- What the work does next. -/
def step (j : Job) : Step Work.service Job (Except Failure Unit) :=
  match j.phase with
  | .fetching m work =>
    work.step.inside (fun work => { j with phase := .fetching m work }) (j.fetched m)
  | .recalling prompt =>
    .ask .recall fun
      | .error e => j.talked (.error e)
      | .ok session => { j with phase := .talking (j.conversation prompt session) }
  | .talking c => c.step.inside (fun c => { j with phase := .talking c }) j.talked
  | .tidying outcome work =>
    work.step.inside (fun work => { j with phase := .tidying outcome work }) (j.tidied outcome)
  | .over outcome => .finished outcome

end Job

end ChatRelay
