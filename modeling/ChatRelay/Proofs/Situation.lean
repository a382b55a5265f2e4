import ChatRelay.Engine

/-!
# Runs of the engine

A run of the engine is a list of moves: an event comes in, a channel is reset, a worker does its
next step, or the request that a worker has made is answered. Any worker may move at any time, so
the lists of moves are all the orders in which things can happen, and since an answer is
arbitrary they are also all the ways in which the outside can behave. A move that is not possible
changes nothing.

A `Situation` is what stands after some moves: the engine, the requests that wait for an answer,
and the record of all that has happened. Between a request and its answer the worker stands
still; everybody else may move.

Nothing comes in while a worker is on, so a reset finds the worker of its channel at rest: it
waits for an answer, or it is not doing a unit of work.
-/

namespace ChatRelay

/-- A way to answer every request. -/
abbrev Outside.Answer := (q : Outside.Request) → Outside.service.Reply q

/-- A request of a worker that has no answer yet, and the phase of the worker after each
answer. -/
structure Question where
  request : Outside.Request
  next : Outside.service.Reply request → Worker.Phase

/-- What a worker does. -/
inductive Deed where
  /-- It takes a unit of work out of its queue and begins with it. -/
  | took (work : Work)
  /-- It writes a line to the log. -/
  | said (line : String)
  /-- It asks something of the outside. -/
  | asked (q : Outside.Request)
  /-- It gets the answer. -/
  | heard (q : Outside.Request) (reply : Outside.service.Reply q)
  /-- Its unit of work is over, and has failed or not. -/
  | ended (failed : Bool)
  /-- It leaves. -/
  | left

/-- One thing that happens. -/
inductive Occurrence where
  /-- An event comes in, is admitted or not, and these lines are logged. -/
  | received (item : Incoming) (admitted : Bool) (notes : List String)
  /-- A channel is reset, and this is asked and logged. -/
  | reset (channel : String) (events : List (Dialogue.Event Outside.service))
  /-- A worker of a channel does something. -/
  | worked (worker : Nat) (channel : String) (deed : Deed)

/-- The unit of work that was taken. -/
def Occurrence.taken? : Occurrence → Option Work
  | .worked _ _ (.took work) => some work
  | _ => none

/-- One move of a run. -/
inductive Move where
  /-- An event comes in. -/
  | receive (item : Incoming)
  /-- A channel is reset, and the store answers. -/
  | reset (channel : String) (answer : Outside.Answer)
  /-- A worker that waits for nothing does its next step. -/
  | work (i : Nat)
  /-- The request of a worker is answered. -/
  | reply (i : Nat) (answer : Outside.Answer)

/-- Whether a worker is doing a unit of work. -/
def Worker.Phase.isBusy : Worker.Phase → Bool
  | .busy _ => true
  | _ => false

/-- What it means that a worker goes from one phase to another without asking anything. -/
def Worker.Phase.deeds : Worker.Phase → Worker.Phase → List Deed
  | .free, .busy job => [.took job.work]
  | .busy _, .free => [.ended false]
  | .busy _, .apologising _ => [.ended true]
  | _, _ => []

/-- What stands at one moment of a run. -/
structure Situation where
  engine : Engine
  /-- The request of each worker that waits for an answer. -/
  waiting : Nat → Option Question := fun _ => none
  /-- All that has happened so far. -/
  record : List Occurrence := []

namespace Situation

/-- Nothing has happened yet. -/
def start (config : Config) (systemPrompt : Option String) (sessions : SessionTable) : Situation :=
  { engine := { config, systemPrompt, sessions } }

/-- The situation with the request of one worker set. -/
def wait (s : Situation) (i : Nat) (q : Option Question) : Situation :=
  { s with waiting := fun j => if j = i then q else s.waiting j }

/-- The situation after deeds of a worker. -/
def note (s : Situation) (i : Nat) (channel : String) (deeds : List Deed) : Situation :=
  { s with record := s.record ++ deeds.map (.worked i channel) }

/-- Whether no worker of a channel is in the middle of a unit of work. -/
def atRest (s : Situation) (channel : String) : Bool :=
  s.engine.workers.all fun w =>
    w.2.channel != channel || (s.waiting w.1).isSome || !w.2.phase.isBusy

/-- The situation after a worker has done what it does next. -/
def stepped (s : Situation) (i : Nat) (w : Worker) :
    Engine × Step Outside.service Worker.Phase Unit → Situation
  | (e, .finished ()) => { s with engine := e }.note i w.channel [.left]
  | (e, .silent phase) =>
    { s with engine := e.setPhase i phase }.note i w.channel (w.phase.deeds phase)
  | (e, .say line phase) => { s with engine := e.setPhase i phase }.note i w.channel [.said line]
  | (e, .ask q next) => ({ s with engine := e }.wait i (some ⟨q, next⟩)).note i w.channel [.asked q]

/-- The situation after a worker has got the answer to its request. -/
def answered (s : Situation) (i : Nat) (w : Worker) (q : Question) (answer : Outside.Answer) :
    Situation :=
  ({ s with engine := s.engine.setPhase i (q.next (answer q.request)) }.wait i none).note
    i w.channel [.heard q.request (answer q.request)]

/-- The situation after a move. -/
def after (s : Situation) : Move → Situation
  | .receive item =>
    let received := s.engine.receive item
    { s with
      engine := received.1
      record := s.record ++ [.received item received.2.1 received.2.2] }
  | .reset channel answer =>
    if s.atRest channel then
      let forgotten := s.engine.reset channel
      let played := forgotten.2.run (fun _ q => (answer q, ())) ()
      { s with
        engine := forgotten.1
        record := s.record ++ [.reset channel played.2.2] }
    else s
  | .work i =>
    match s.engine.worker? i, s.waiting i with
    | some w, none => s.stepped i w (s.engine.step i)
    | _, _ => s
  | .reply i answer =>
    match s.engine.worker? i, s.waiting i with
    | some w, some q => s.answered i w q answer
    | _, _ => s

/-- The situation after moves. -/
def run (s : Situation) (ms : List Move) : Situation := ms.foldl after s

/-- No moves leave a situation as it is. -/
@[simp] theorem run_nil (s : Situation) : s.run [] = s := rfl

/-- A run starts with its first move. -/
@[simp] theorem run_cons (s : Situation) (m : Move) (ms : List Move) :
    s.run (m :: ms) = (s.after m).run ms := rfl

/-- More moves go on from where the moves before them have led. -/
theorem run_append (s : Situation) (ms ns : List Move) : s.run (ms ++ ns) = (s.run ms).run ns :=
  List.foldl_append

/-- What one move keeps, a run keeps. -/
theorem run_induction {P : Situation → Prop} (hstep : ∀ s m, P s → P (s.after m)) {s : Situation}
    (h : P s) (ms : List Move) : P (s.run ms) := by
  induction ms generalizing s with
  | nil => exact h
  | cons m ms ih => exact ih (hstep s m h)

/-- All that a worker does next goes to the record as its deeds. -/
theorem stepped_record (s : Situation) (i : Nat) (w : Worker)
    (x : Engine × Step Outside.service Worker.Phase Unit) :
    ∃ deeds : List Deed,
      (s.stepped i w x).record = s.record ++ deeds.map (.worked i w.channel) := by
  obtain ⟨e, step⟩ := x
  cases step <;> exact ⟨_, rfl⟩

/-- What a move records does not depend on what was recorded before, and nothing else does. -/
theorem after_record (s : Situation) (m : Move) :
    ∃ os, ∀ r, ({ s with record := r } : Situation).after m =
      { s.after m with record := r ++ os } := by
  cases m with
  | receive item =>
    exact ⟨[.received item (s.engine.receive item).2.1 (s.engine.receive item).2.2],
      fun _ => rfl⟩
  | reset c answer =>
    have hrest : ∀ r, ({ s with record := r } : Situation).atRest c = s.atRest c := fun _ => rfl
    by_cases h : s.atRest c = true
    · refine ⟨[.reset c ((s.engine.reset c).2.run (fun _ q => (answer q, ())) ()).2.2],
        fun r => ?_⟩
      simp only [after, hrest, h, if_true]
    · refine ⟨[], fun r => ?_⟩
      simp only [after, hrest, h, List.append_nil]
      rfl
  | work i =>
    cases hw : s.engine.worker? i with
    | none => exact ⟨[], fun r => by simp only [after, hw, List.append_nil]⟩
    | some w =>
      cases hq : s.waiting i with
      | some q => exact ⟨[], fun r => by simp only [after, hw, hq, List.append_nil]⟩
      | none =>
        simp only [after, hw, hq]
        cases s.engine.step i with
        | mk e step => cases step <;> exact ⟨_, fun r => rfl⟩
  | reply i answer =>
    cases hw : s.engine.worker? i with
    | none => exact ⟨[], fun r => by simp only [after, hw, List.append_nil]⟩
    | some w =>
      cases hq : s.waiting i with
      | none => exact ⟨[], fun r => by simp only [after, hw, hq, List.append_nil]⟩
      | some q =>
        simp only [after, hw, hq]
        exact ⟨_, fun r => rfl⟩

/-- What a run records does not depend on what was recorded before, and nothing else does. -/
theorem run_record (s : Situation) (ms : List Move) :
    ∃ os, ∀ r, ({ s with record := r } : Situation).run ms =
      { s.run ms with record := r ++ os } := by
  induction ms generalizing s with
  | nil => exact ⟨[], fun r => by rw [List.append_nil]; rfl⟩
  | cons m ms ih =>
    obtain ⟨first, hfirst⟩ := after_record s m
    obtain ⟨rest, hrest⟩ := ih (s.after m)
    refine ⟨first ++ rest, fun r => ?_⟩
    rw [run_cons, run_cons, hfirst, hrest, List.append_assoc]

end Situation

end ChatRelay
