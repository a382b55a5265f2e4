import ChatRelay.Directive.Response
import ChatRelay.History
import ChatRelay.Machine
import ChatRelay.Outside
import ChatRelay.Prompt

/-!
# Conversations

A conversation is what the relay and the agent say to each other about one unit of work. The
relay starts a turn of the agent and carries out the directives of its text as they come. A text
that asks a question ends the turn; the answer to the question is the prompt of the next turn.
The number of turns is bounded, and so is the number of questions that are answered.

The conversation is a machine that goes from phase to phase. A turn is open in the phases
`listening`, `reacting` and `closing`, and every way out of these leads through `closing`.
-/

namespace ChatRelay

namespace Conversation

/-- What a conversation is held with from its start to its end. -/
structure Setup where
  place : Place
  workdir : String := "."
  skill : String := ""
  /-- What a turn is told that starts a new session. -/
  systemPrompt : Option String := none
  /-- The most questions that are answered. -/
  maxDepth : Int := 5
  /-- The most turns that are started. -/
  maxTurns : Int := 10
  deriving Repr, Inhabited

/-- The answer to a question of the agent. -/
def answer (setup : Setup) : Feedback → Dialogue Chat.service String
  | .history request => History.answer setup.place request
  | .exec messageId => do
    match ← Outbox.fetchForExec setup.place messageId with
    | none => return Prompt.notFound messageId
    | some m =>
      return Prompt.message m.id setup.skill m.content setup.place.channelId m.attachments

/-- The answer to a directive, which must be a question. -/
def answerDirective (setup : Setup) (d : Directive) :
    Dialogue Chat.service (Except Failure String) :=
  match d.feedback? with
  | none => .done (.error (.notFeedback d.describe))
  | some question => do
    let text ← answer setup question
    return .ok text

/-- What the work on one event leads to: a question, nothing, or a failure. -/
abbrev Verdict := Except Failure (Option Feedback)

/-- Carries out the directives of a text of the agent. -/
def carryOut (place : Place) (text : String) : Dialogue Work.service Verdict := do
  let response := Response.read text
  .notes response.notes
  match response.directives with
  | .error refusal => return .error (.numeral refusal)
  | .ok ds =>
    let question ← Work.ofChat (Outbox.dispatch place ds)
    return .ok question

/-- Reports a session to the engine, when it is not the one that was known before. -/
def reportSession (known : Option String) (e : Agent.Event) :
    Dialogue Work.service (Except Failure Unit) :=
  match e.reported? with
  | none => .done (.ok ())
  | some session =>
    if known = some session then .done (.ok ())
    else
      .say s!"[AgentSession] session changed: {orNone known} -> {session}"
        (.request (P := Work.service) (.report session))

/-- What an event says, apart from the session that it reports. -/
def heed (place : Place) (e : Agent.Event) : Dialogue Work.service Verdict :=
  match e.kind with
  | .session => .done (.ok none)
  | .result =>
    if e.subtype = some "success" then .done (.ok none)
    else .say s!"[AgentSession] agent query error ({orNone e.subtype})" (.done (.ok none))
  | .text => if Text.allBlank e.text then .done (.ok none) else carryOut place e.text

/-- The work on one event. -/
def react (place : Place) (known : Option String) (e : Agent.Event) :
    Dialogue Work.service Verdict := do
  match ← reportSession known e with
  | .error failure => return .error failure
  | .ok () => heed place e

/-- Where a conversation stands. -/
inductive Phase where
  /-- The next prompt is there. -/
  | prompting (prompt : String)
  /-- A turn is about to be started. -/
  | starting (prompt : String)
  /-- A turn is open, and its next event is awaited. -/
  | listening
  /-- A turn is open, and an event of it is worked on. -/
  | reacting (work : Dialogue Work.service Verdict)
  /-- A turn is open, and it is about to be closed. -/
  | closing (verdict : Verdict)
  /-- The turn that was closed asked a question. -/
  | asked (question : Feedback)
  /-- A question of the agent is being answered. -/
  | answering (work : Dialogue Work.service String)
  /-- The conversation is over. -/
  | over (outcome : Except Failure Unit)

end Conversation

/-- A conversation: the session that it last heard of, the number of turns started, the number of
questions answered and of turns begun since the first prompt, and its phase. -/
structure Conversation where
  setup : Conversation.Setup
  session : Option String
  turnCount : Nat := 0
  depth : Nat := 0
  rounds : Nat := 0
  phase : Conversation.Phase

namespace Conversation

/-- The conversation put back to a first prompt. -/
def begin (c : Conversation) (prompt : String) : Conversation :=
  { c with depth := 0, rounds := 0, phase := .prompting prompt }

/-- The turn that the conversation starts with a prompt. A turn that resumes a session is not
told the system prompt again. -/
def turn (c : Conversation) (prompt : String) : Agent.Turn :=
  { prompt
    session := c.session
    workdir := c.setup.workdir
    systemPrompt := if c.session.isNone then c.setup.systemPrompt else none }

/-- The conversation when the next event of its turn is there. -/
def hear (c : Conversation) : Except Failure (Option Agent.Event) → Conversation
  | .error e => { c with phase := .closing (.error e) }
  | .ok none => { c with phase := .closing (.ok none) }
  | .ok (some e) =>
    { c with
      session := e.reported?.or c.session
      phase := .reacting (react c.setup.place c.session e) }

/-- The conversation when the work on an event has ended: only a question or a failure ends the
turn. -/
def judge (c : Conversation) : Verdict → Conversation
  | .ok none => { c with phase := .listening }
  | verdict => { c with phase := .closing verdict }

/-- The conversation when its turn is closed. -/
def leave (c : Conversation) (verdict : Verdict) : Except Failure Unit → Conversation
  | .error e => { c with phase := .over (.error e) }
  | .ok () =>
    match verdict with
    | .error e => { c with phase := .over (.error e) }
    | .ok none => { c with phase := .over (.ok ()) }
    | .ok (some question) => { c with phase := .asked question }

/-- What the conversation does when a prompt is there: it stops when the most turns were
started. -/
def prompted (c : Conversation) (prompt : String) :
    Step Work.service Conversation (Except Failure Unit) :=
  if c.setup.maxTurns ≤ c.rounds then
    .say s!"[AgentSession] max iterations ({c.setup.maxTurns}) reached; stopping"
      { c with phase := .over (.ok ()) }
  else
    .say ("[AgentSession] session: " ++ c.session.getD "NEW")
      { c with turnCount := c.turnCount + 1, rounds := c.rounds + 1, phase := .starting prompt }

/-- What the conversation does when the agent asked a question: it stops when the most questions
were answered. -/
def questioned (c : Conversation) (question : Feedback) :
    Step Work.service Conversation (Except Failure Unit) :=
  if c.setup.maxDepth ≤ c.depth then
    .say (s!"[AgentSession] depth exceeded ({c.setup.maxDepth}); " ++
        s!"dropping {question.kindName}")
      { c with phase := .over (.ok ()) }
  else .silent { c with phase := .answering (Work.ofChat (answer c.setup question)) }

/-- What the conversation does next. -/
def step (c : Conversation) : Step Work.service Conversation (Except Failure Unit) :=
  match c.phase with
  | .prompting prompt => c.prompted prompt
  | .starting prompt =>
    .ask (.outside (.agent (.start (c.turn prompt)))) fun
      | .error e => { c with phase := .closing (.error e) }
      | .ok _ => { c with phase := .listening }
  | .listening => .ask (.outside (.agent .next)) c.hear
  | .reacting work => work.step.inside (fun work => { c with phase := .reacting work }) c.judge
  | .closing verdict => .ask (.outside (.agent .close)) (c.leave verdict)
  | .asked question => c.questioned question
  | .answering work =>
    work.step.inside (fun work => { c with phase := .answering work }) fun prompt =>
      { c with depth := c.depth + 1, phase := .prompting prompt }
  | .over outcome => .finished outcome

end Conversation

end ChatRelay
