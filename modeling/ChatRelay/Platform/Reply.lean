import ChatRelay.Claude.Turn
import ChatRelay.Discord.Chat

/-!
# The platform as the outside of the engine

What the engine asks of its outside is asked of Discord and of the agent service; everything else
is passed on as it is.
-/

namespace ChatRelay.Platform

/-- How a request of the engine is answered. -/
def reply (s : Claude.Settings) : (q : Outside.Request) → Dialogue service (Outside.service.Reply q)
  | .chat q => (Discord.reply q).run
  | .agent q => (Claude.reply s q).run
  | .disk q => .request (P := service) (.disk q)
  | .web url => .request (P := service) (.web url)
  | .freshName => .request (P := service) .freshName
  | .store change => .request (P := service) (.store change)

end ChatRelay.Platform
