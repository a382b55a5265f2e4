import ChatRelay.Proofs.Situation
import ChatRelay.Proofs.Staff

/-!
# The desk of a channel

A desk is all that an engine keeps for one channel: its queue, its session, and its worker with
what the worker waits for. `Desk.Next` lists what can happen at a desk, and mentions no other
channel. `Situation.desk_run` says that a run, seen from one channel, is nothing but a sequence
of such steps, and that the record of the channel is what they record. So what holds of every
sequence of steps at one desk holds in every order in which the channels take turns.
-/

namespace ChatRelay

/-- What an engine keeps for one channel. The worker comes with its number, its phase and the
request that it waits for. -/
structure Desk where
  queue : Queue := {}
  session : Option Text.Wide := none
  worker : Option (Nat × Worker.Phase × Option Question) := none

/-- Whether an occurrence belongs to the record of a channel. An event that was not admitted
belongs to none. -/
def Occurrence.concerns (c : String) : Occurrence → Bool
  | .received item admitted _ => admitted && item.channelId == c
  | .reset channel _ => channel == c
  | .worked _ channel _ => channel == c

namespace Desk

/-- Whether nobody is in the middle of a unit of work. -/
def atRest (d : Desk) : Bool :=
  match d.worker with
  | none => true
  | some (_, phase, question) => question.isSome || !phase.isBusy

/-- What can happen at the desk of a channel, and what is recorded of it. -/
inductive Next (config : Config) (systemPrompt : Option String) (c : String) :
    Desk → List Occurrence → Desk → Prop where
  /-- An event is admitted while a worker is there. -/
  | queued {items session worker item profile notes}
      (admitted : item.isBot = false ∧ item.userId = config.operator ∧
        config.findChannel item.channelName = some profile)
      (channel : item.channelId = c) :
      Next config systemPrompt c ⟨⟨items, true⟩, session, some worker⟩
        [.received item true notes] ⟨⟨items ++ [⟨item, profile⟩], true⟩, session, some worker⟩
  /-- An event is admitted while no worker is there, and one is called. -/
  | called {items session item profile notes} (i : Nat)
      (admitted : item.isBot = false ∧ item.userId = config.operator ∧
        config.findChannel item.channelName = some profile)
      (channel : item.channelId = c) :
      Next config systemPrompt c ⟨⟨items, false⟩, session, none⟩
        [.received item true notes]
        ⟨⟨items ++ [⟨item, profile⟩], true⟩, session, some (i, .free, none)⟩
  /-- The channel is reset. -/
  | reset {d : Desk} (e : Engine) (answer : Outside.Answer) (rest : d.atRest = true) :
      Next config systemPrompt c d
        [.reset c ((e.reset c).2.run (fun _ q => (answer q, ())) ()).2.2]
        { d with session := none }
  /-- The worker leaves an empty queue. -/
  | left {active session i} :
      Next config systemPrompt c ⟨⟨[], active⟩, session, some (i, .free, none)⟩
        [.worked i c .left] ⟨⟨[], false⟩, session, none⟩
  /-- The worker takes the first unit of work. -/
  | took {work rest active session i} :
      Next config systemPrompt c ⟨⟨work :: rest, active⟩, session, some (i, .free, none)⟩
        [.worked i c (.took work)]
        ⟨⟨rest, active⟩, session,
          some (i, .busy (.begin config.engine systemPrompt work), none)⟩
  /-- The unit of work goes on by itself. -/
  | silent {queue session i job next} (step : job.step = .silent next) :
      Next config systemPrompt c ⟨queue, session, some (i, .busy job, none)⟩ []
        ⟨queue, session, some (i, .busy next, none)⟩
  /-- The unit of work writes a line to the log. -/
  | said {queue session i job line next} (step : job.step = .say line next) :
      Next config systemPrompt c ⟨queue, session, some (i, .busy job, none)⟩
        [.worked i c (.said line)] ⟨queue, session, some (i, .busy next, none)⟩
  /-- The unit of work gets the session of the channel. -/
  | recalled {queue session i job next} (step : job.step = .ask .recall next) :
      Next config systemPrompt c ⟨queue, session, some (i, .busy job, none)⟩ []
        ⟨queue, session, some (i, .busy (next (.ok (session.map Text.Wide.text))), none)⟩
  /-- The unit of work reports the session that the channel has. -/
  | known {queue i job} {id : String} {next} (step : job.step = .ask (.report id) next) :
      Next config systemPrompt c ⟨queue, some id, some (i, .busy job, none)⟩ []
        ⟨queue, some id, some (i, .busy (next (.ok ())), none)⟩
  /-- The unit of work reports another session, and the store is told. -/
  | reported {queue session i job} {id : String} {next}
      (step : job.step = .ask (.report id) next) (other : session ≠ some (id : Text.Wide)) :
      Next config systemPrompt c ⟨queue, session, some (i, .busy job, none)⟩
        [.worked i c (.asked (.store (.set c id)))]
        ⟨queue, some id,
          some (i, .busy job, some ⟨.store (.set c id), fun r => .busy (next r)⟩)⟩
  /-- The unit of work asks something of the outside. -/
  | asked {queue session i job q next} (step : job.step = .ask (.outside q) next) :
      Next config systemPrompt c ⟨queue, session, some (i, .busy job, none)⟩
        [.worked i c (.asked q)]
        ⟨queue, session, some (i, .busy job, some ⟨q, fun r => .busy (next r)⟩)⟩
  /-- The unit of work is over. -/
  | finished {queue session i job outcome} (step : job.step = .finished outcome) :
      Next config systemPrompt c ⟨queue, session, some (i, .busy job, none)⟩
        [.worked i c (.ended !outcome.isOk)]
        ⟨queue, session, some (i, Engine.concluded c job.work.profile outcome, none)⟩
  /-- The apology writes a line to the log. -/
  | sighed {queue session i line rest} :
      Next config systemPrompt c ⟨queue, session, some (i, .apologising (.say line rest), none)⟩
        [.worked i c (.said line)] ⟨queue, session, some (i, .apologising rest, none)⟩
  /-- The apology asks something. -/
  | pleaded {queue session i q next} :
      Next config systemPrompt c ⟨queue, session, some (i, .apologising (.ask q next), none)⟩
        [.worked i c (.asked q)]
        ⟨queue, session,
          some (i, .apologising (.ask q next), some ⟨q, fun r => .apologising (next r)⟩)⟩
  /-- The apology is over. -/
  | settled {queue session i} :
      Next config systemPrompt c ⟨queue, session, some (i, .apologising (.done ()), none)⟩ []
        ⟨queue, session, some (i, .free, none)⟩
  /-- A request is answered. -/
  | heard {queue session i phase question} (answer : Outside.Answer) :
      Next config systemPrompt c ⟨queue, session, some (i, phase, some question)⟩
        [.worked i c (.heard question.request (answer question.request))]
        ⟨queue, session, some (i, question.next (answer question.request), none)⟩

/-- What happens at the desk of a channel one after the other, and what is recorded of it. -/
inductive Run (config : Config) (systemPrompt : Option String) (c : String) :
    Desk → List Occurrence → Desk → Prop where
  | nil (d : Desk) : Run config systemPrompt c d [] d
  | snoc {d d' d'' : Desk} {os os' : List Occurrence} (run : Run config systemPrompt c d os d')
      (next : Next config systemPrompt c d' os' d'') :
      Run config systemPrompt c d (os ++ os') d''

section Run

variable {config : Config} {systemPrompt : Option String} {c : String}

/-- One step records one thing at most. -/
theorem Next.length_le_one {d d' : Desk} {os : List Occurrence}
    (h : Next config systemPrompt c d os d') : os.length ≤ 1 := by
  cases h <;> simp

/-- A run goes through every occurrence that it records. -/
theorem Run.split {d d' : Desk} {os before after : List Occurrence} {o : Occurrence}
    (h : Run config systemPrompt c d os d') (hos : os = before ++ o :: after) :
    ∃ e e', Run config systemPrompt c d before e ∧ Next config systemPrompt c e [o] e' ∧
      Run config systemPrompt c e' after d' := by
  induction h generalizing after with
  | nil => simp at hos
  | @snoc d' d'' os os' run next ih =>
    have hlength := next.length_le_one
    obtain _ | ⟨last, _ | ⟨_, _⟩⟩ := os'
    · rw [List.append_nil] at hos
      obtain ⟨e, e', hbefore, hnext, hafter⟩ := ih hos
      refine ⟨e, e', hbefore, hnext, ?_⟩
      rw [← List.append_nil after]
      exact .snoc hafter next
    · rcases after.eq_nil_or_concat' with rfl | ⟨after, o', rfl⟩
      · obtain ⟨rfl, hlast⟩ := List.append_inj' hos rfl
        cases hlast
        exact ⟨d', d'', run, next, .nil d''⟩
      · have hos' : os ++ [last] = (before ++ o :: after) ++ [o'] := by
          rw [hos, List.append_assoc]
          rfl
        obtain ⟨rfl, hlast⟩ := List.append_inj' hos' rfl
        cases hlast
        obtain ⟨e, e', hbefore, hnext, hafter⟩ := ih rfl
        exact ⟨e, e', hbefore, hnext, .snoc hafter next⟩
    · simp only [List.length_cons] at hlength
      omega

end Run

end Desk

namespace Situation

/-- The desk of a channel. -/
def desk (s : Situation) (c : String) : Desk :=
  { queue := s.engine.queue c
    session := s.engine.sessions.get? c
    worker := (s.engine.workerOf? c).map fun w => (w.1, w.2.phase, s.waiting w.1) }

/-- The record of a channel. -/
def recordOf (s : Situation) (c : String) : List Occurrence := s.record.filter (·.concerns c)

/-- The workers of an engine fit together with its queues, and only workers wait. -/
structure Sound (s : Situation) : Prop where
  staffed : s.engine.Staffed
  waiting : ∀ i q, s.waiting i = some q → ∃ w, s.engine.worker? i = some w

/-! ## What changes a desk -/

section Changes

variable {s : Situation} {i : Nat} {w : Worker}

/-- What is noted in the record changes no desk. -/
theorem desk_note (s : Situation) (i : Nat) (c : String) (deeds : List Deed) (c' : String) :
    (s.note i c deeds).desk c' = s.desk c' := rfl

/-- The desk of the channel of a worker. -/
theorem desk_of_worker (hs : s.engine.Staffed) (hw : s.engine.worker? i = some w) :
    s.desk w.channel =
      ⟨s.engine.queue w.channel, s.engine.sessions.get? w.channel,
        some (i, w.phase, s.waiting i)⟩ := by
  have hc : s.engine.workerOf? w.channel = some (i, w) :=
    (Engine.workerOf?_eq_some_iff hs).mpr ⟨hw, rfl⟩
  simp only [desk, hc, Option.map_some]

/-- The worker of another channel has another number. -/
theorem number_ne_of_channel_ne (hs : s.engine.Staffed) (hw : s.engine.worker? i = some w)
    {c : String} (hc : c ≠ w.channel) {v : Nat × Worker} (hv : s.engine.workerOf? c = some v) :
    v.1 ≠ i := by
  obtain ⟨hn, hch⟩ := (Engine.workerOf?_eq_some_iff hs).mp hv
  apply (hs.number_ne_iff hw (Engine.mem_of_worker? hn)).mpr
  rw [hch]
  exact hc

/-- Whatever changes the workers and the waiting at one number only, and no queue and no session,
changes one desk only. -/
theorem desk_setPhase (hs : s.engine.Staffed) (hw : s.engine.worker? i = some w)
    (p : Worker.Phase) (c : String) :
    ({ s with engine := s.engine.setPhase i p } : Situation).desk c =
      if c = w.channel then { s.desk c with worker := some (i, p, s.waiting i) }
      else s.desk c := by
  by_cases hc : c = w.channel
  · subst hc
    have ho : s.engine.workerOf? w.channel = some (i, w) :=
      (Engine.workerOf?_eq_some_iff hs).mpr ⟨hw, rfl⟩
    simp only [desk, Engine.workerOf?_setPhase, ho, Option.map_some, if_true]
    rfl
  · rw [if_neg hc]
    simp only [desk, Engine.workerOf?_setPhase]
    cases ho : s.engine.workerOf? c with
    | none => rfl
    | some v =>
      have hne := number_ne_of_channel_ne hs hw hc ho
      simp only [Option.map_some, hne, if_false]
      rfl

/-- A worker that comes to wait, or stops waiting, changes the desk of its own channel alone. -/
theorem desk_wait (hs : s.engine.Staffed) (hw : s.engine.worker? i = some w)
    (q : Option Question) (c : String) :
    (s.wait i q).desk c =
      if c = w.channel then { s.desk c with worker := some (i, w.phase, q) } else s.desk c := by
  by_cases hc : c = w.channel
  · subst hc
    have ho : s.engine.workerOf? w.channel = some (i, w) :=
      (Engine.workerOf?_eq_some_iff hs).mpr ⟨hw, rfl⟩
    simp only [desk, wait, ho, Option.map_some, if_true]
  · rw [if_neg hc]
    simp only [desk, wait]
    cases ho : s.engine.workerOf? c with
    | none => rfl
    | some v =>
      have hne := number_ne_of_channel_ne hs hw hc ho
      simp only [Option.map_some, hne, if_false]

/-- Taking units of work off a queue changes the desk of its channel alone. -/
theorem desk_dequeue (s : Situation) (c : String) (rest : List Work) (c' : String) :
    ({ s with engine := s.engine.dequeue c rest } : Situation).desk c' =
      if c' = c then { s.desk c' with queue := { s.engine.queue c with items := rest } }
      else s.desk c' := by
  have hq := Engine.queue_dequeue s.engine c rest c'
  by_cases hc : c' = c
  · rw [if_pos hc] at hq ⊢
    simp only [desk, hq]
    rfl
  · rw [if_neg hc] at hq ⊢
    simp only [desk, hq]
    rfl

/-- A worker that is dismissed leaves the desk of its channel, which is no longer active. -/
theorem desk_dismiss (hs : s.engine.Staffed) (hw : s.engine.worker? i = some w) (c : String) :
    ({ s with engine := s.engine.dismiss i w.channel } : Situation).desk c =
      if c = w.channel then
        { s.desk c with queue := { s.engine.queue c with active := false }, worker := none }
      else s.desk c := by
  have hq := Engine.queue_dismiss s.engine i w.channel c
  have ho := Engine.workerOf?_dismiss hs hw c
  by_cases hc : c = w.channel
  · subst hc
    rw [if_pos rfl] at hq ho ⊢
    simp only [desk, hq, ho, Option.map_none]
    rfl
  · rw [if_neg hc] at hq ho ⊢
    simp only [desk, hq, ho]
    rfl

/-- What sets the session of one channel changes one desk only. -/
theorem desk_sessions (s : Situation) (c : String) {sessions : SessionTable}
    (h : ∀ c', c' ≠ c → sessions.get? c' = s.engine.sessions.get? (c' : String)) (c' : String) :
    ({ s with engine := { s.engine with sessions } } : Situation).desk c' =
      if c' = c then { s.desk c' with session := sessions.get? (c : String) }
      else s.desk c' := by
  by_cases hc : c' = c
  · rw [if_pos hc]
    subst hc
    rfl
  · rw [if_neg hc]
    have hg := h c' hc
    simp only [desk, hg]
    rfl

end Changes

end Situation

end ChatRelay
