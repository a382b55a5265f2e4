import ChatRelay.Message

/-!
# Transcripts

The answer to a history command: a heading, one entry for each message in the order in which
they were fetched, and a closing line.
-/

namespace ChatRelay.Transcript

/-- The attachments of a message, in brackets behind it. -/
def showAttachments (attachments : List String) : String :=
  if attachments.isEmpty then ""
  else " [attachments: " ++ ", ".intercalate attachments ++ "]"

/-- The entry of one message. -/
def entry (m : Message) : String :=
  s!"[{m.createdAt.toText}] {m.author} ({m.id}): {m.content}{showAttachments m.attachments}"

/-- The heading of a transcript. -/
def heading (channelName : String) (count : Nat) (offset : Int) : String :=
  s!"--- history of #{channelName} ({count} messages, offset {offset}) ---"

/-- The transcript of messages of a channel. -/
def render (channelName : String) (messages : List Message) (offset : Int) : String :=
  "\n".intercalate
    (heading channelName messages.length offset :: messages.map entry ++ ["--- end history ---"])

end ChatRelay.Transcript
