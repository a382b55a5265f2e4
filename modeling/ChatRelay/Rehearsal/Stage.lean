import ChatRelay.Engine
import ChatRelay.Rehearsal.Partner

/-!
# Rehearsing the engine

The workers of an engine take turns on a stage. A worker that is ready goes on until it leaves or
waits for a closed gate; then the next one goes on, in the order in which they became ready. A
gate that is released makes those who wait for it ready, in the order in which they began to
wait.

What a worker asks reaches the partner through a dialogue, which may ask several things of the
partner for one request of the worker.
-/

namespace ChatRelay.Rehearsal

variable {P : Service} {σ : Type}

/-- A partner of the engine: the dialogue for each request, and who answers it. -/
structure Troupe (P : Service) (σ : Type) where
  through : (q : Outside.Request) → Dialogue P (Outside.service.Reply q)
  partner : Partner P σ

/-- A request of a worker that is being answered: the dialogue that is left, the number of its
open request if that has arrived, and the phase of the worker after the reply. -/
structure Errand (P : Service) where
  request : Outside.Request
  work : Dialogue P (Outside.service.Reply request)
  number : Option Nat := none
  next : Outside.service.Reply request → Worker.Phase

/-- A stage: the engine, the state of the partner, and who is on, is ready or waits. -/
structure Stage (P : Service) (σ : Type) where
  engine : Engine
  world : σ
  gates : Gates := {}
  /-- The worker that is on. -/
  current : Option Task := none
  /-- The workers that are ready, in the order in which they became so. -/
  ready : List Task := []
  /-- The workers that wait, each with its gate, in the order in which they began to. -/
  waiting : List (String × Task) := []
  /-- What the workers have asked and have no reply to. -/
  errands : List (Task × Errand P) := []
  log : List String := []

namespace Stage

/-- The stage with a worker no longer asking anything. -/
def dropErrand (s : Stage P σ) (i : Task) : Stage P σ :=
  { s with errands := s.errands.filter fun e => e.1 != i }

/-- The stage with a worker asking something. -/
def setErrand (s : Stage P σ) (i : Task) (e : Errand P) : Stage P σ :=
  { s.dropErrand i with errands := (i, e) :: (s.dropErrand i).errands }

/-- The stage after one request of a worker has arrived: it waits for a gate or is answered. -/
def meet (t : Troupe P σ) (s : Stage P σ) (i : Task) (e : Errand P) (q : P.Request)
    (rest : P.Reply q → Dialogue P (Outside.service.Reply e.request)) (n : Nat) : Stage P σ :=
  match t.partner.barrier s.world s.gates i n q with
  | some gate =>
    { s.setErrand i { e with number := some n } with
      current := none
      waiting := s.waiting ++ [(gate, i)] }
  | none =>
    let r := t.partner.answer s.world i n q
    { s.setErrand i { e with work := rest r.1, number := none } with
      world := r.2.1
      log := s.log ++ r.2.2 }

/-- The stage after one step of an errand. -/
def runErrand (t : Troupe P σ) (s : Stage P σ) (i : Task) (e : Errand P) : Stage P σ :=
  match e.work with
  | .done reply => { s.dropErrand i with engine := s.engine.setPhase i (e.next reply) }
  | .say line rest => { s.setErrand i { e with work := rest } with log := s.log ++ [line] }
  | .ask q rest =>
    match e.number with
    | some n => s.meet t i e q rest n
    | none =>
      let arrived := t.partner.arrive s.world i q
      { s with world := arrived.1 }.meet t i e q rest arrived.2

/-- The stage after one step of a worker. -/
def runWorker (t : Troupe P σ) (s : Stage P σ) (i : Task) : Stage P σ :=
  let stepped := s.engine.step i
  let after := { s with engine := stepped.1 }
  match stepped.2 with
  | .finished () => { after with current := none }
  | .silent phase => { after with engine := stepped.1.setPhase i phase }
  | .say line phase =>
    { after with engine := stepped.1.setPhase i phase, log := s.log ++ [line] }
  | .ask q next => after.setErrand i { request := q, work := t.through q, next }

/-- One step on the stage, unless nobody is ready. -/
def tick (t : Troupe P σ) (s : Stage P σ) : Option (Stage P σ) :=
  match s.current with
  | some i =>
    match s.errands.find? fun e => e.1 == i with
    | some (_, e) => some (s.runErrand t i e)
    | none => some (s.runWorker t i)
  | none =>
    match s.ready with
    | [] => none
    | i :: rest => some { s with current := some i, ready := rest }

/-- An event comes in; a worker that it calls becomes ready. -/
def receive (s : Stage P σ) (item : Incoming) : Stage P σ × Bool :=
  let received := s.engine.receive item
  ({ s with
      engine := received.1
      ready := s.ready ++
        (List.range (received.1.nextWorker - s.engine.nextWorker)).map (s.engine.nextWorker + ·)
      log := s.log ++ received.2.2 },
    received.2.1)

/-- Plays a dialogue with the partner to its end. -/
def converse {α : Type} (t : Troupe P σ) (s : Stage P σ) (d : Dialogue Outside.service α) :
    α × Stage P σ :=
  let played := t.partner.play 0 s.world (d.via t.through)
  (played.1, { s with world := played.2.1, log := s.log ++ played.2.2 })

/-- Resets a channel. -/
def reset (t : Troupe P σ) (s : Stage P σ) (channel : String) : Except Failure Unit × Stage P σ :=
  let forgotten := s.engine.reset channel
  converse t { s with engine := forgotten.1 } forgotten.2

/-- Opens a gate. -/
def release (s : Stage P σ) (gate : String) : Stage P σ :=
  { s with
    gates := s.gates.release gate
    ready := s.ready ++ (s.waiting.filter fun w => w.1 == gate).map (·.2)
    waiting := s.waiting.filter fun w => w.1 != gate }

/-- Opens every gate: those that somebody waits for in the order of their names, and those that
somebody will come to. -/
def releaseAll (s : Stage P σ) : Stage P σ :=
  let names := (s.waiting.map (·.1)).mergeSort fun a b => decide (a ≤ b)
  let opened := names.foldl release s
  { opened with gates := { opened.gates with all := true } }

/-- One step of a unit of work that is done without a worker, or its outcome. -/
def stepJob (t : Troupe P σ) (s : Stage P σ) (channel : String) (job : Job) :
    Except Failure Unit ⊕ (Stage P σ × Job) :=
  let served := s.engine.serve channel job.step
  let after := { s with engine := served.1 }
  match served.2 with
  | .finished outcome => .inl outcome
  | .silent job => .inr (after, job)
  | .say line job => .inr ({ after with log := s.log ++ [line] }, job)
  | .ask q next =>
    let r := converse t after (.request (P := Outside.service) q)
    .inr (r.2, next r.1)

end Stage

end ChatRelay.Rehearsal
