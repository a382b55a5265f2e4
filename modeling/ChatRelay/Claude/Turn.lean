import ChatRelay.Attempt
import ChatRelay.Platform

/-!
# The agent service as the agent

How every request of the relay to its agent is answered by the agent service. A turn is one
query. A message that is no event for the relay counts as an event that says nothing.
-/

namespace ChatRelay.Claude

/-- Makes one request to the service. -/
def ask (q : Request) : Attempt Platform.service (Value q) :=
  Attempt.ask (P := Platform.service) (.claude q)

/-- How a request to the agent is answered. -/
def reply (s : Settings) : (q : Agent.Request) → Attempt Platform.service (Agent.Value q)
  | .start turn => do
    ExceptT.lift (Dialogue.note (startNote s turn))
    ask (.query turn.prompt (options s turn))
  | .next => do
    let (m : Option Message) ← ask .next
    return m.map fun m => (event? m).getD .blank
  | .close => ask .close

end ChatRelay.Claude
