import ChatRelay.Agent
import ChatRelay.Chat
import ChatRelay.Disk.Service

/-!
# The outside of the engine

All that a unit of work may ask of the outside: the chat platform, the agent, files on the web
and on the disk, names that were never used before, and a store that keeps the session of every
channel.

A unit of work also asks the engine itself for the session of its channel, and tells it when the
agent reports another one.
-/

namespace ChatRelay

/-- A change to the sessions that the store keeps. -/
inductive SessionChange where
  | set (channel session : String)
  | delete (channel : String)
  deriving DecidableEq, Repr, Inhabited

namespace Outside

/-- A request to the outside. -/
inductive Request where
  | chat (q : Chat.Request)
  | agent (q : Agent.Request)
  | disk (q : Disk.Request)
  /-- The file at an address. -/
  | web (url : String)
  /-- A name that was never used before. -/
  | freshName
  /-- Tells the store about a change. -/
  | store (change : SessionChange)
  deriving DecidableEq, Repr, Inhabited

/-- The answer to a request. -/
def Value : Request → Type
  | .chat q => Chat.Value q
  | .agent q => Agent.Value q
  | .disk q => Disk.Value q
  | .web _ => Disk.Bytes
  | .freshName => String
  | .store _ => Unit

/-- The outside as a service. -/
def service : Service := ⟨Request, Value⟩

/-- Work on the disk as work on the outside. -/
def ofDisk {α : Type} (d : Dialogue Disk.service α) : Dialogue service α :=
  d.via fun q => Dialogue.request (P := service) (.disk q)

/-- Work on the chat platform as work on the outside. -/
def ofChat {α : Type} (d : Dialogue Chat.service α) : Dialogue service α :=
  d.via fun q => Dialogue.request (P := service) (.chat q)

end Outside

namespace Work

/-- A request of a unit of work. -/
inductive Request where
  | outside (q : Outside.Request)
  /-- The session of the channel, if it has one. -/
  | recall
  /-- The agent reports this session. -/
  | report (session : String)
  deriving DecidableEq, Repr, Inhabited

/-- The answer to a request. -/
def Value : Request → Type
  | .outside q => Outside.Value q
  | .recall => Option String
  | .report _ => Unit

/-- What a unit of work asks, as a service. -/
def service : Service := ⟨Request, Value⟩

/-- Work on the outside as part of a unit of work. -/
def ofOutside {α : Type} (d : Dialogue Outside.service α) : Dialogue service α :=
  d.via fun q => Dialogue.request (P := service) (.outside q)

/-- Work on the chat platform as part of a unit of work. -/
def ofChat {α : Type} (d : Dialogue Chat.service α) : Dialogue service α :=
  d.via fun q => Dialogue.request (P := service) (.outside (.chat q))

end Work

end ChatRelay
