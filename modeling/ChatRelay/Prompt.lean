import ChatRelay.Text.Lines

/-!
# Prompts

What the agent is told about a unit of work: a message or a reaction, as a block of labelled
lines, or that a message could not be found; and the instructions that every new session starts
with.
-/

namespace ChatRelay.Prompt

/-- The content of a message, as an argument of the skill of its channel if that has one. -/
def contentLine (skill content : String) : String :=
  if skill = "" then s!"content: {content}" else s!"content: /{skill} {content}"

/-- The line that lists the attachments of a message. -/
def attachmentsLine (attachments : List String) : String :=
  if attachments.isEmpty then "attachments:" else "attachments: " ++ " ".intercalate attachments

/-- The prompt for a message. -/
def message (messageId skill content channelId : String) (attachments : List String) : String :=
  Text.joinLines [
    s!"id: {messageId}",
    contentLine skill content,
    s!"channel: {channelId}",
    attachmentsLine attachments,
    "reactions:"]

/-- The prompt for a reaction to a message. -/
def reaction (emoji messageId channelId userId : String) : String :=
  Text.joinLines [
    s!"reaction: {emoji}",
    s!"message: {messageId}",
    s!"channel: {channelId}",
    s!"user: {userId}"]

/-- The prompt for a message that was to be worked on and could not be fetched. -/
def notFound (messageId : String) : String := s!"--- exec error: message {messageId} not found ---"

/-- The instructions of a new session, around the text of the prompt file. -/
def systemContext (content : String) : String :=
  "<system-context>\n" ++ content ++ "\n</system-context>"

end ChatRelay.Prompt
