/-!
# Configuration

What the relay is configured with: its credentials on the chat platform, the user whom it obeys,
the agent's model, the channels that it works in, and the settings of the engine.
-/

namespace ChatRelay

/-- How the relay works in one channel. -/
structure ChannelProfile where
  name : String
  /-- What a message of the channel is an argument of, if this is not empty. -/
  skill : String := ""
  /-- Where the agent works. -/
  workdir : String := "."
  /-- The channel that the output goes to, instead of the channel itself. -/
  logChannel : Option String := none
  deriving DecidableEq, Repr, Inhabited

/-- The settings of the engine. -/
structure EngineSettings where
  /-- The most questions of the agent that are answered for one unit of work. -/
  maxDepth : Int := 5
  /-- The most turns of the agent for one unit of work. -/
  maxTurns : Int := 10
  sessionsFile : String := ".sessions.json"
  promptFile : String := "docs/PROMPT.md"
  temporaryDirectory : String := ".tmp"
  deriving DecidableEq, Repr, Inhabited

/-- A configuration. -/
structure Config where
  token : String
  operator : String
  model : String
  channels : List ChannelProfile
  engine : EngineSettings := {}
  deriving DecidableEq, Repr, Inhabited

/-- The first profile of a channel with this name. -/
def Config.findChannel (c : Config) (name : String) : Option ChannelProfile :=
  c.channels.find? fun profile => profile.name == name

end ChatRelay
