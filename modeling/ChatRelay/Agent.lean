import ChatRelay.Dialogue

/-!
# The agent

The agent works in turns. A turn is started with a prompt, then its events are taken one by one,
and in the end it is closed, whether its events were exhausted or not. The agent keeps a session
over its turns and reports the name of the session in its events.
-/

namespace ChatRelay.Agent

/-- What a turn is started with. A turn without a session starts a new one. -/
structure Turn where
  prompt : String
  session : Option String
  workdir : String
  systemPrompt : Option String
  deriving DecidableEq, Repr, Inhabited

/-- The kinds of events: text of the agent, the announcement of a session, the result of a turn. -/
inductive EventKind where
  | text
  | session
  | result
  deriving DecidableEq, Repr, Inhabited

/-- One event of a turn. Any event may report a session. -/
structure Event where
  kind : EventKind
  text : String := ""
  session : Option String := none
  subtype : Option String := some "success"
  deriving DecidableEq, Repr, Inhabited

/-- An event that says nothing. -/
def Event.blank : Event := { kind := .session }

/-- The session that an event reports; an empty name reports none. -/
def Event.reported? (e : Event) : Option String :=
  e.session.filter (· ≠ "")

/-- A request to the agent, about the one turn that is open. -/
inductive Request where
  /-- Starts a turn. -/
  | start (turn : Turn)
  /-- The next event of the turn, unless its events are exhausted. -/
  | next
  /-- Closes the turn. -/
  | close
  deriving DecidableEq, Repr, Inhabited

/-- The answer to a request. -/
def Value : Request → Type
  | .start _ => Unit
  | .next => Option Event
  | .close => Unit

/-- The agent as a service. -/
def service : Service := ⟨Request, Value⟩

end ChatRelay.Agent
