import ChatRelay.Job
import ChatRelay.Machine
import ChatRelay.SessionTable
import ChatRelay.SystemPrompt

/-!
# The engine

The engine admits the events of its operator in the channels that have a profile and queues them,
each channel in a queue of its own. A queue that gets its first unit of work gets a worker, which
takes one unit after the other in the order of their arrival and leaves when the queue is empty.
A unit of work that fails is answered with an apology, and the worker goes on. Workers of
different channels run side by side.

The engine also knows the agent session of every channel. A unit of work asks for it once and
reports every session that the agent names; the engine keeps the last one and tells the store.
Resetting a channel makes the engine and the store forget its session.

A worker is a machine whose steps `Engine.step` describes. Between a request of a worker and the
reply everything else may happen: admissions, resets, and steps of the other workers.
-/

namespace ChatRelay

/-- The units of work that wait in a channel, in the order of their arrival, and whether a worker
was called for them. -/
structure Queue where
  items : List Work := []
  active : Bool := false
  deriving Inhabited

/-- Where a worker stands. -/
inductive Worker.Phase where
  /-- It is about to look into the queue. -/
  | free
  /-- It is doing a unit of work. -/
  | busy (job : Job)
  /-- It is apologising for a unit of work that failed. -/
  | apologising (work : Dialogue Outside.service Unit)

/-- A worker of a channel. -/
structure Worker where
  channel : String
  phase : Worker.Phase := .free

/-- The engine. Every worker has a number, and the first one is one. -/
structure Engine where
  config : Config
  systemPrompt : Option String := none
  queues : Table String Queue := .empty
  sessions : SessionTable := .empty
  workers : List (Nat × Worker) := []
  nextWorker : Nat := 1

namespace Engine

/-- What is sent to a channel when a unit of work has failed. -/
def errorReply : String := "Error processing your request."

/-! ## Admission -/

/-- The profile that an event is worked on with. An event of a bot, of anybody but the operator
or of a channel without a profile is not admitted. -/
def admit? (e : Engine) (item : Incoming) : Option ChannelProfile :=
  if item.isBot || item.userId != e.config.operator then none
  else e.config.findChannel item.channelName

/-- The queue of a channel. -/
def queue (e : Engine) (channel : String) : Queue := (e.queues.get? channel).getD {}

/-- Puts a unit of work at the end of a queue, and calls a worker if there is none. -/
def enqueue (e : Engine) (channel : String) (work : Work) : Engine :=
  let q := e.queue channel
  let queues := e.queues.set channel { items := q.items ++ [work], active := true }
  if q.active then { e with queues }
  else
    { e with
      queues
      workers := e.workers ++ [(e.nextWorker, { channel })]
      nextWorker := e.nextWorker + 1 }

/-- What is logged when an event is admitted. -/
def admissionNotes : Incoming → List String
  | .message _ => []
  | .reaction r => [s!"[Engine:{r.channelName}] {r.userId} reacted: {r.emoji}"]

/-- Takes an event in. Returns whether it was admitted, and what is logged. -/
def receive (e : Engine) (item : Incoming) : Engine × Bool × List String :=
  match e.admit? item with
  | none => (e, false, [])
  | some profile => (e.enqueue item.channelId { item, profile }, true, admissionNotes item)

/-! ## Sessions -/

/-- Forgets the session of a channel; the store is told, and then a line is logged. -/
def reset (e : Engine) (channel : String) :
    Engine × Dialogue Outside.service (Except Failure Unit) :=
  ({ e with sessions := e.sessions.erase channel },
    .ask (.store (.delete channel)) fun
      | .error failure => .done (.error failure)
      | .ok _ => .say s!"[Engine] session reset for channel {channel}" (.done (.ok ())))

/-! ## Workers -/

/-- The worker with a number. -/
def worker? (e : Engine) (i : Nat) : Option Worker := (e.workers.find? fun w => w.1 == i).map (·.2)

/-- Changes the phase of a worker. -/
def setPhase (e : Engine) (i : Nat) (phase : Worker.Phase) : Engine :=
  { e with workers := e.workers.map fun w => if w.1 = i then (w.1, { w.2 with phase }) else w }

/-- The apology for a unit of work that failed. -/
def apology (channel : String) (profile : ChannelProfile) (failure : Failure) :
    Dialogue Outside.service Unit :=
  .say s!"[Engine:{profile.name}] Processing error: {failure.describe}"
    (.ask (.chat (.send channel errorReply [])) fun
      | .error refused => .note s!"[Engine:{profile.name}] error reply failed: {refused.message}"
      | .ok _ => .done ())

/-- The phase of a worker whose unit of work is over. -/
def concluded (channel : String) (profile : ChannelProfile) : Except Failure Unit → Worker.Phase
  | .ok () => .free
  | .error failure => .apologising (apology channel profile failure)

/-- The step of a unit of work in a channel, where the engine itself answers what is asked about
the session of the channel. A session that the engine knows already is not told to the store
again. -/
def serve {σ ρ : Type} (e : Engine) (channel : String) :
    Step Work.service σ ρ → Engine × Step Outside.service σ ρ
  | .finished r => (e, .finished r)
  | .silent next => (e, .silent next)
  | .say line next => (e, .say line next)
  | .ask .recall next => (e, .silent (next (.ok (e.sessions.session? channel))))
  | .ask (.report session) next =>
    if e.sessions.get? channel = some (session : Text.Wide) then (e, .silent (next (.ok ())))
    else
      ({ e with sessions := e.sessions.set channel session },
        .ask (.store (.set channel session)) next)
  | .ask (.outside q) next => (e, .ask q next)

/-- A free worker takes the next unit of work, or leaves an empty queue. -/
def takeNext (e : Engine) (i : Nat) (channel : String) :
    Engine × Step Outside.service Worker.Phase Unit :=
  let q := e.queue channel
  match q.items with
  | [] =>
    ({ e with
        queues := e.queues.set channel { q with active := false }
        workers := e.workers.filter fun w => w.1 != i },
      .finished ())
  | work :: rest =>
    ({ e with queues := e.queues.set channel { q with items := rest } },
      .silent (.busy (.begin e.config.engine e.systemPrompt work)))

/-- What a worker does next: the engine after that, and the step of the worker, whose states are
its phases. A worker that does not exist has left. -/
def step (e : Engine) (i : Nat) : Engine × Step Outside.service Worker.Phase Unit :=
  match e.worker? i with
  | none => (e, .finished ())
  | some w =>
    match w.phase with
    | .free => e.takeNext i w.channel
    | .busy job =>
      let served := e.serve w.channel job.step
      (served.1, served.2.inside .busy (concluded w.channel job.work.profile))
    | .apologising work => (e, work.step.inside .apologising fun _ => .free)

/-! ## Inspection -/

/-- Whether a channel has a worker. -/
def isActive (e : Engine) (channel : String) : Bool := (e.queue channel).active

/-- The number of units of work that wait in a channel. -/
def pendingCount (e : Engine) (channel : String) : Nat := (e.queue channel).items.length

/-- Whether all workers have left. -/
def isIdle (e : Engine) : Bool := e.workers.isEmpty

/-- Makes an engine with the sessions of the store; the system prompt is read now. -/
def make (config : Config) (sessions : SessionTable) :
    Dialogue Disk.service (Except Failure Engine) := do
  match ← SystemPrompt.load config.engine.promptFile with
  | .error e => return .error e
  | .ok systemPrompt => return .ok { config, systemPrompt, sessions }

end Engine

end ChatRelay
