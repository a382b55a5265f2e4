import ChatRelay.Config.File
import ChatRelay.Engine
import ChatRelay.Platform.Reply
import ChatRelay.SessionStore

/-!
# Starting the relay

The relay is put together from its configuration: the sessions are read, and then the engine is
made, which reads the system prompt.
-/

namespace ChatRelay

/-- A relay that is ready to be connected. -/
structure Relay where
  config : Config
  store : SessionStore
  engine : Engine

namespace Relay

/-- How the relay uses the agent service. -/
def claudeSettings (c : Config) : Claude.Settings := { model := c.model }

/-- Puts a relay together. The configuration is at the given path, or at that of the environment,
or at the standard one. -/
def start (given environment : Option String) : Dialogue Disk.service (Except Failure Relay) := do
  match ← Config.load given environment with
  | .error e => return .error e
  | .ok config =>
    match ← SessionStore.openAt (Path.ofText config.engine.sessionsFile) with
    | .error e => return .error e
    | .ok store =>
      match ← Engine.make config store.sessions with
      | .error e => return .error e
      | .ok engine => return .ok { config, store, engine }

end Relay

end ChatRelay
