import ChatRelay.Agent

/-!
# Claude

What the relay asks of the agent service. A query is started with a prompt and options, and then
its messages are taken one by one.
-/

namespace ChatRelay.Claude

/-- A part of a message of the assistant: text, or something else such as the use of a tool. -/
inductive Block where
  | text (s : String)
  | other
  deriving DecidableEq, Repr, Inhabited

/-- A message of a query. -/
inductive Message where
  /-- A notice of the service, which may name the session. -/
  | system (session : Option String)
  | assistant (blocks : List Block)
  | result (session subtype : Option String)
  /-- A message of another kind. -/
  | other
  deriving DecidableEq, Repr, Inhabited

/-- How the service is used. -/
structure Settings where
  model : String
  permissionMode : String := "bypassPermissions"
  deriving DecidableEq, Repr, Inhabited

/-- The options of a query. -/
structure Options where
  model : String
  workdir : String
  /-- The session that is resumed. -/
  resume : Option String
  systemPrompt : Option String
  maxTurns : Nat
  permissionMode : String
  deriving DecidableEq, Repr, Inhabited

/-- A request to the service, about the one query that is open. -/
inductive Request where
  | query (prompt : String) (options : Options)
  /-- The next message, unless there are no more. -/
  | next
  | close
  deriving DecidableEq, Repr, Inhabited

/-- The answer to a request. -/
def Value : Request → Type
  | .query _ _ => Unit
  | .next => Option Message
  | .close => Unit

/-! ## Events -/

/-- The texts of a message of the assistant, each on lines of its own. -/
def textOf (blocks : List Block) : String :=
  "\n".intercalate (blocks.filterMap fun b => match b with
    | .text s => some s
    | .other => none)

/-- The event that a message is for the relay, if it is one. -/
def event? : Message → Option Agent.Event
  | .system session =>
    (session.filter (· ≠ "")).map fun session => { kind := .session, session := some session }
  | .assistant blocks => some { kind := .text, text := textOf blocks }
  | .result session subtype => some { kind := .result, session, subtype }
  | .other => none

/-- The options of the query for a turn. The relay takes every turn by itself. -/
def options (s : Settings) (t : Agent.Turn) : Options :=
  { model := s.model
    workdir := t.workdir
    resume := t.session
    systemPrompt := t.systemPrompt
    maxTurns := 1
    permissionMode := s.permissionMode }

/-- What is logged when a turn is started. -/
def startNote (s : Settings) (t : Agent.Turn) : String :=
  s!"[Claude] query: model={s.model} session=" ++ (t.session.filter (· ≠ "")).getD "NEW"

end ChatRelay.Claude
