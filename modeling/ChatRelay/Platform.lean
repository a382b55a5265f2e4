import ChatRelay.Claude
import ChatRelay.Discord
import ChatRelay.Outside

/-!
# The platform of the relay

All that the whole relay asks of the world: Discord, the agent service, the disk, files on the
web, names that were never used before, and the store of sessions.
-/

namespace ChatRelay.Platform

/-- A request to the world. -/
inductive Request where
  | discord (q : Discord.Request)
  | claude (q : Claude.Request)
  | disk (q : Disk.Request)
  | web (url : String)
  | freshName
  | store (change : SessionChange)
  deriving DecidableEq, Repr, Inhabited

/-- The answer to a request. -/
def Value : Request → Type
  | .discord q => Discord.Value q
  | .claude q => Claude.Value q
  | .disk q => Disk.Value q
  | .web _ => Disk.Bytes
  | .freshName => String
  | .store _ => Unit

/-- The world as a service. -/
def service : Service := ⟨Request, Value⟩

end ChatRelay.Platform
