import ChatRelay.Proofs.Aside
import ChatRelay.Proofs.Desk.Projection

/-!
# What a channel remembers of its session

The session of a channel can be read off the record: it is the last one that an agent reported in
a turn which did not know it, unless the channel was reset after that. What a turn knows is the
session that it was started with, or the last one that was reported in it or in a later turn of
the same unit of work. A reset makes the channel forget, and it does not make the unit of work
forget that is going on.

`Memory` is what the record says, and `Desk.Keeps` is the invariant that ties it to the desk.
The main statement is `Desk.Keeps.run`.
-/

namespace ChatRelay

/-- What the record of a channel says about its session. -/
structure Memory where
  /-- The session that the last turn knows. -/
  held : Option String := none
  /-- The session of the channel. -/
  kept : Option Text.Wide := none
  /-- No turn of the last unit of work was started yet. -/
  fresh : Bool := true

namespace Memory

/-- A turn is started with the session that it knows. -/
def ask (m : Memory) : Outside.Request → Memory
  | .agent (.start turn) => { m with held := turn.session, fresh := false }
  | _ => m

/-- An event of a turn may report another session than the turn knows. -/
def told (m : Memory) (e : Agent.Event) : Memory :=
  match e.reported? with
  | none => m
  | some session =>
    if m.held = some session then m else { m with held := some session, kept := some session }

/-- No request changes what the channel keeps. -/
@[simp] theorem ask_kept (m : Memory) (q : Outside.Request) : (m.ask q).kept = m.kept := by
  unfold ask
  split <;> rfl

/-- Only the events of a turn report a session. -/
def hear (m : Memory) : (q : Outside.Request) → Outside.service.Reply q → Memory
  | .agent .next, .ok (some (e : Agent.Event)) => m.told e
  | _, _ => m

/-- No event of a turn starts one. -/
@[simp] theorem told_fresh (m : Memory) (e : Agent.Event) : (m.told e).fresh = m.fresh := by
  unfold told
  split
  · rfl
  · split <;> rfl

/-- After an event, a turn knows the session that the event reports. -/
theorem told_held (m : Memory) (e : Agent.Event) :
    (m.told e).held = e.reported?.or m.held := by
  unfold told
  cases e.reported? with
  | none => rfl
  | some session =>
    by_cases h : m.held = some session
    · simp only [h, if_true, Option.some_or]
    · simp only [h, if_false, Option.some_or]

/-- What is remembered after an occurrence. -/
def after (m : Memory) : Occurrence → Memory
  | .reset _ _ => { m with kept := none }
  | .worked _ _ (.took _) => { m with fresh := true }
  | .worked _ _ (.asked q) => m.ask q
  | .worked _ _ (.heard q reply) => m.hear q reply
  | _ => m

/-- What is remembered after a record. -/
def run (m : Memory) (os : List Occurrence) : Memory := os.foldl after m

/-- The memory goes on from one record to the next. -/
theorem run_append (m : Memory) (os os' : List Occurrence) :
    m.run (os ++ os') = (m.run os).run os' :=
  List.foldl_append

/-- What is asked on the side changes no memory. -/
theorem ask_of_aside (m : Memory) {q : Outside.Request} (h : q.IsAside) : m.ask q = m := by
  cases q with
  | agent q => exact h.elim
  | _ => rfl

/-- What is heard on the side changes no memory. -/
theorem hear_of_aside (m : Memory) {q : Outside.Request} (h : q.IsAside)
    (reply : Outside.service.Reply q) : m.hear q reply = m := by
  cases q with
  | agent q => exact h.elim
  | _ => rfl

end Memory

/-! ## What a unit of work keeps of its session -/

/-- The turn that a channel starts for a new unit of work: it resumes the session of the channel,
and only where there is none it is told the system prompt. -/
structure Memory.Begins (m : Memory) (systemPrompt : Option String) (turn : Agent.Turn) :
    Prop where
  session : turn.session = m.kept.map Text.Wide.text
  systemPrompt : turn.systemPrompt = if m.kept = none then systemPrompt else none

section Keeps

variable (systemPrompt : Option String)

/-- The work on an event of a turn: it may report a session, which the memory holds already, and
the rest is done on the side. -/
inductive Memory.Reacts (m : Memory) (session : Option Text.Wide) :
    Dialogue Work.service Conversation.Verdict → Prop where
  | aside {work} (kept : session = m.kept) (asks : work.Asks Work.Request.IsAside) :
      Reacts m session work
  | said {line work} (rest : Reacts m session work) : Reacts m session (.say line work)
  | reported {id : String} {next} (kept : m.kept = some (id : Text.Wide))
      (asks : ∀ r, (next r).Asks Work.Request.IsAside) :
      Reacts m session (.ask (.report id) next)

/-- A conversation fits to the memory of its channel and to the session that the channel has. -/
def Conversation.Keeps (m : Memory) (session : Option Text.Wide) (c : Conversation) : Prop :=
  match c.phase with
  | .prompting _ | .starting _ =>
    session = m.kept ∧ (m.fresh = true → c.session = session.map Text.Wide.text ∧
      c.setup.systemPrompt = if (c.session.getD "").isEmpty then systemPrompt else none)
  | .listening => session = m.kept ∧ m.fresh = false ∧ c.session = m.held
  | .reacting work => m.Reacts session work ∧ m.fresh = false ∧ c.session = m.held
  | .answering work => session = m.kept ∧ m.fresh = false ∧ work.Asks Work.Request.IsAside
  | .closing _ | .asked _ => session = m.kept ∧ m.fresh = false
  | .over _ => session = m.kept

/-- A unit of work fits to the memory of its channel and to the session that the channel has. -/
def Job.Keeps (m : Memory) (session : Option Text.Wide) (j : Job) : Prop :=
  j.systemPrompt = systemPrompt ∧
    match j.phase with
    | .fetching _ work => session = m.kept ∧ work.Asks Work.Request.IsAside
    | .talking c => c.Keeps systemPrompt m session
    | .tidying _ work => session = m.kept ∧ work.Asks Work.Request.IsAside
    | .recalling _ | .over _ => session = m.kept

/-- A step fits to the memory: wherever it leads, the memory of what happens goes along. While an
answer is awaited the channel may be reset, so what is asked of the outside leads on whatever the
channel keeps by then. -/
def Step.Keeps {σ ρ : Type} (keeps : Memory → Option Text.Wide → σ → Prop) (m : Memory)
    (session : Option Text.Wide) : Step Work.service σ ρ → Prop
  | .finished _ => session = m.kept
  | .silent next => keeps m session next
  | .say _ next => keeps m session next
  | .ask .recall next => keeps m session (next (.ok (session.map Text.Wide.text)))
  | .ask (.report id) next =>
    m.kept = some (id : Text.Wide) ∧ ∀ kept r, keeps { m with kept } kept (next r)
  | .ask (.outside q) next =>
    session = m.kept ∧
      (m.fresh = true → ∀ turn, q = .agent (.start turn) → m.Begins systemPrompt turn) ∧
      ∀ kept (r : Outside.service.Reply q), keeps ({ m.ask q with kept }.hear q r) kept (next r)

/-! ## What a step does to it -/

variable {systemPrompt} {m : Memory} {session : Option Text.Wide}

/-- A machine inside another one keeps what the other one has to keep. -/
theorem Step.Keeps.inside {σ τ ρ υ : Type} {keeps : Memory → Option Text.Wide → σ → Prop}
    {keeps' : Memory → Option Text.Wide → τ → Prop} {wrap : σ → τ} {after : ρ → τ}
    {step : Step Work.service σ ρ} (h : step.Keeps systemPrompt keeps m session)
    (hwrap : ∀ m session s, keeps m session s → keeps' m session (wrap s))
    (hafter : session = m.kept → ∀ r, keeps' m session (after r)) :
    (step.inside wrap after : Step Work.service τ υ).Keeps systemPrompt keeps' m session := by
  cases step with
  | finished r => exact hafter h r
  | silent next => exact hwrap _ _ _ h
  | say line next => exact hwrap _ _ _ h
  | ask q next =>
    cases q with
    | outside q => exact ⟨h.1, h.2.1, fun kept r => hwrap _ _ _ (h.2.2 kept r)⟩
    | «recall» => exact hwrap _ _ _ h
    | report id => exact ⟨h.1, fun kept r => hwrap _ _ _ (h.2 kept r)⟩

/-- What is done on the side changes no memory. -/
theorem Dialogue.step_aside {α : Type} {work : Dialogue Work.service α}
    (hkept : session = m.kept) (hasks : work.Asks Work.Request.IsAside) :
    work.step.Keeps systemPrompt (fun m' session' work' => m'.held = m.held ∧
      m'.fresh = m.fresh ∧ session' = m'.kept ∧ work'.Asks Work.Request.IsAside) m session := by
  cases work with
  | done a => exact hkept
  | say line rest => exact ⟨rfl, rfl, hkept, hasks⟩
  | ask q rest =>
    cases q with
    | «recall» => exact hasks.1.elim
    | report id => exact hasks.1.elim
    | outside q =>
      have haside : q.IsAside := hasks.1
      refine ⟨hkept, ?_, fun kept r => ?_⟩
      · rintro - turn rfl
        exact haside.elim
      · rw [Memory.ask_of_aside m haside, Memory.hear_of_aside _ haside]
        exact ⟨rfl, rfl, rfl, hasks.2 r⟩

/-- The work on an event of a turn fits to the memory at every step. -/
theorem Memory.Reacts.step {work : Dialogue Work.service Conversation.Verdict}
    (h : m.Reacts session work) :
    work.step.Keeps systemPrompt (fun m' session' work' => m'.held = m.held ∧
      m'.fresh = m.fresh ∧ m'.Reacts session' work') m session := by
  cases h with
  | aside kept asks =>
    have hstep : work.step.Keeps systemPrompt _ m session := Dialogue.step_aside kept asks
    cases work with
    | done a => exact hstep
    | say line rest => exact ⟨rfl, rfl, .aside kept asks⟩
    | ask q rest =>
      cases q with
      | «recall» => exact asks.1.elim
      | report id => exact asks.1.elim
      | outside q =>
        refine ⟨hstep.1, hstep.2.1, fun kept' r => ?_⟩
        obtain ⟨hheld, hfresh, hkept, hasks⟩ := hstep.2.2 kept' r
        exact ⟨hheld, hfresh, .aside hkept hasks⟩
  | said rest => exact ⟨rfl, rfl, rest⟩
  | reported kept asks => exact ⟨kept, fun kept' r => ⟨rfl, rfl, .aside rfl (asks r)⟩⟩

/-- An event that is heard is worked on as the memory has it. -/
theorem Conversation.react_reacts (place : Place) (e : Agent.Event) :
    (m.told e).Reacts m.kept (react place m.held e) := by
  unfold react reportSession Memory.told
  cases hreported : e.reported? with
  | none => exact .aside rfl (asks_heed place e)
  | some id =>
    by_cases hknown : m.held = some id
    · simp only [hknown, if_true]
      exact .aside rfl (asks_heed place e)
    · simp only [hknown, if_false]
      refine .said (.reported rfl fun r => ?_)
      cases r with
      | error failure => trivial
      | ok _ => exact asks_heed place e

/-- The first turn of a conversation begins as the memory has it. -/
theorem Conversation.turn_begins {c : Conversation} (hkept : session = m.kept)
    (hsession : c.session = session.map Text.Wide.text)
    (hprompt : c.setup.systemPrompt =
      if (c.session.getD "").isEmpty then systemPrompt else none) (prompt : String) :
    m.Begins systemPrompt (c.turn prompt) := by
  subst hkept
  refine ⟨hsession, ?_⟩
  simp only [turn, hprompt, hsession]
  cases m.kept with
  | none => rfl
  | some id => rfl

namespace Conversation

variable {c : Conversation}

/-- Where a prompt is there, the conversation stops or is about to start a turn; what the turn
will know is the same. -/
theorem keeps_prompted {prompt : String} (hkept : session = m.kept)
    (hfresh : m.fresh = true → c.session = session.map Text.Wide.text ∧
      c.setup.systemPrompt = if (c.session.getD "").isEmpty then systemPrompt else none) :
    (c.prompted prompt).Keeps systemPrompt (Keeps systemPrompt) m session := by
  unfold prompted
  split
  · exact hkept
  · exact ⟨hkept, hfresh⟩

/-- Whatever the turn says, the conversation knows the session that the memory holds then. -/
theorem keeps_hear (hfresh : m.fresh = false) (hheld : c.session = m.held)
    (r : Except Failure (Option Agent.Event)) :
    (c.hear r).Keeps systemPrompt (m.hear (.agent .next) r) m.kept := by
  rcases r with e | _ | e
  · exact ⟨rfl, hfresh⟩
  · exact ⟨rfl, hfresh⟩
  · refine ⟨?_, (Memory.told_fresh m e).trans hfresh, ?_⟩
    · rw [hheld]
      exact react_reacts c.setup.place e
    · simp only [hear, hheld]
      exact (Memory.told_held m e).symm

/-- When the work on an event has ended, the turn goes on with what it knows, or it is closed. -/
theorem keeps_judge (hkept : session = m.kept) (hfresh : m.fresh = false)
    (hheld : c.session = m.held) (verdict : Verdict) :
    (c.judge verdict).Keeps systemPrompt m session := by
  rcases verdict with failure | _ | question
  · exact ⟨hkept, hfresh⟩
  · exact ⟨hkept, hfresh, hheld⟩
  · exact ⟨hkept, hfresh⟩

/-- When the turn is closed, the conversation is over, or it has a question to answer. -/
theorem keeps_leave (hfresh : m.fresh = false) (verdict : Verdict) (r : Except Failure Unit) :
    (c.leave verdict r).Keeps systemPrompt m m.kept := by
  rcases r with failure | _
  · rfl
  · rcases verdict with failure | _ | question
    · rfl
    · rfl
    · exact ⟨rfl, hfresh⟩

/-- A question is dropped, or it is answered on the side. -/
theorem keeps_questioned {question : Feedback} (hkept : session = m.kept)
    (hfresh : m.fresh = false) :
    (c.questioned question).Keeps systemPrompt (Keeps systemPrompt) m session := by
  unfold questioned
  split
  · exact hkept
  · exact ⟨hkept, hfresh, Work.asks_ofChat _⟩

/-- A conversation fits to the memory at every step. -/
theorem Keeps.step (h : c.Keeps systemPrompt m session) :
    c.step.Keeps systemPrompt (Keeps systemPrompt) m session := by
  obtain ⟨setup, held, turnCount, depth, rounds, phase⟩ := c
  cases phase with
  | prompting prompt => exact keeps_prompted h.1 h.2
  | starting prompt =>
    obtain ⟨hkept, hfresh⟩ := h
    refine ⟨hkept, ?_, fun kept r => ?_⟩
    -- Only the first turn takes the session from the channel.
    · rintro hf turn ⟨⟩
      obtain ⟨hsession, hprompt⟩ := hfresh hf
      exact turn_begins hkept hsession hprompt prompt
    · cases r with
      | error e => exact ⟨rfl, rfl⟩
      | ok _ => exact ⟨rfl, rfl, rfl⟩
  | listening =>
    obtain ⟨hkept, hfresh, hheld⟩ := h
    exact ⟨hkept, nofun, fun kept r => keeps_hear (m := { m with kept }) hfresh hheld r⟩
  | reacting work =>
    obtain ⟨hreacts, hfresh, hheld⟩ := h
    refine hreacts.step.inside ?_ fun hkept => keeps_judge hkept hfresh hheld
    rintro m' session' work' ⟨hheld', hfresh', hreacts'⟩
    exact ⟨hreacts', hfresh'.trans hfresh, hheld.trans hheld'.symm⟩
  | closing verdict =>
    obtain ⟨hkept, hfresh⟩ := h
    exact ⟨hkept, nofun, fun kept r => keeps_leave (m := { m with kept }) hfresh verdict r⟩
  | asked question => exact keeps_questioned h.1 h.2
  | answering work =>
    obtain ⟨hkept, hfresh, hasks⟩ := h
    refine (Dialogue.step_aside hkept hasks).inside ?_ fun hkept' prompt => ⟨hkept', ?_⟩
    · rintro m' session' work' ⟨-, hfresh', hkept', hasks'⟩
      exact ⟨hkept', hfresh'.trans hfresh, hasks'⟩
    · rw [hfresh]
      exact nofun
  | «over» outcome => exact h

end Conversation

/-- A unit of work fits to the memory at every step. -/
theorem Job.Keeps.step {j : Job} (h : j.Keeps systemPrompt m session) :
    j.step.Keeps systemPrompt (Job.Keeps systemPrompt) m session := by
  obtain ⟨settings, _, work, files, phase⟩ := j
  obtain ⟨rfl, h⟩ := h
  cases phase with
  | fetching message download =>
    obtain ⟨hkept, hasks⟩ := h
    refine (Dialogue.step_aside hkept hasks).inside ?_ ?_
    · rintro m' session' work' ⟨hheld', hfresh', hkept', hasks'⟩
      exact ⟨rfl, hkept', hasks'⟩
    · intro hkept' outcome
      cases outcome with
      | error failure => exact ⟨rfl, hkept'⟩
      | ok files => exact ⟨rfl, hkept'⟩
  | recalling prompt => exact ⟨rfl, h, fun _ => ⟨rfl, rfl⟩⟩
  | talking c =>
    refine (Conversation.Keeps.step h).inside ?_ ?_
    · intro m' session' c' hc
      exact ⟨rfl, hc⟩
    · intro hkept outcome
      exact ⟨rfl, hkept, Work.asks_ofOutside (Attachment.asks_cleanup _)⟩
  | tidying outcome cleaning =>
    obtain ⟨hkept, hasks⟩ := h
    refine (Dialogue.step_aside hkept hasks).inside ?_ ?_
    · rintro m' session' work' ⟨hheld', hfresh', hkept', hasks'⟩
      exact ⟨rfl, hkept', hasks'⟩
    · intro hkept' outcome'
      cases outcome' with
      | error failure => exact ⟨rfl, hkept'⟩
      | ok _ => exact ⟨rfl, hkept'⟩
  | «over» outcome => exact h

/-- What a unit of work does next fits to the memory. -/
theorem Job.Keeps.of_step {j : Job} {step : Step Work.service Job (Except Failure Unit)}
    (h : j.Keeps systemPrompt m session) (hstep : j.step = step) :
    step.Keeps systemPrompt (Job.Keeps systemPrompt) m session := hstep ▸ h.step

/-- A unit of work that is begun fits to the memory. -/
theorem Job.keeps_begin (settings : EngineSettings) (work : Work) (hkept : session = m.kept) :
    (Job.begin settings systemPrompt work).Keeps systemPrompt m session := by
  refine ⟨rfl, ?_⟩
  unfold Job.begin
  cases work.item with
  | message message => exact ⟨hkept, Work.asks_ofOutside (Attachment.asks_download _ _)⟩
  | reaction reaction => exact hkept

/-! ## What a desk keeps of it -/

variable (systemPrompt) in
/-- A worker fits to the memory of its channel and to the session that the channel has. -/
def Worker.Phase.Keeps (m : Memory) (session : Option Text.Wide) : Worker.Phase → Prop
  | .free => session = m.kept
  | .busy job => job.Keeps systemPrompt m session
  | .apologising work => session = m.kept ∧ work.Asks Outside.Request.IsAside

variable (systemPrompt) in
/-- A desk fits to the memory of its channel. A worker that waits for an answer will fit to it
whatever the answer is and whatever the channel keeps by then. -/
def Desk.Keeps (m : Memory) (d : Desk) : Prop :=
  match d.worker with
  | none => d.session = m.kept
  | some (_, phase, none) => phase.Keeps systemPrompt m d.session
  | some (_, _, some question) =>
    d.session = m.kept ∧ ∀ kept r,
      (question.next r).Keeps systemPrompt ({ m with kept }.hear question.request r) kept

/-- The apology for a unit of work asks nothing of the agent. -/
theorem Engine.apology_aside (channel : String) (profile : ChannelProfile) (failure : Failure) :
    (apology channel profile failure).Asks Outside.Request.IsAside := by
  refine ⟨trivial, fun r => ?_⟩
  cases r <;> trivial

variable {config : Config} {c : String}

/-- A channel that is reset forgets its session, and nobody is in the middle of a unit of work
then, so nothing depends on what it was. -/
theorem Desk.Keeps.reset {d : Desk} (h : d.Keeps systemPrompt m) (hrest : d.atRest = true) :
    ({ d with session := none } : Desk).Keeps systemPrompt { m with kept := none } := by
  obtain ⟨queue, session, _ | ⟨i, phase, _ | question⟩⟩ := d
  · rfl
  · cases phase with
    | free => rfl
    | busy job => exact absurd hrest Bool.false_ne_true
    | apologising work => exact ⟨rfl, h.2⟩
  · exact ⟨rfl, h.2⟩

/-- Every step at a desk fits to the memory. -/
theorem Desk.Keeps.next {d d' : Desk} {os : List Occurrence} (h : d.Keeps systemPrompt m)
    (hn : Next config systemPrompt c d os d') : d'.Keeps systemPrompt (m.run os) := by
  cases hn with
  | @queued _ _ worker =>
    obtain ⟨i, phase, _ | question⟩ := worker <;> exact h
  | called i admitted channel => exact h
  | reset e answer rest => exact h.reset rest
  | left => exact h
  | took => exact Job.keeps_begin _ _ h
  | silent step => exact Job.Keeps.of_step h step
  | said step => exact Job.Keeps.of_step h step
  | recalled step => exact Job.Keeps.of_step h step
  | known step =>
    obtain ⟨hkept, hnext⟩ := Job.Keeps.of_step h step
    exact hkept ▸ hnext m.kept (.ok ())
  | reported step other =>
    obtain ⟨hkept, hnext⟩ := Job.Keeps.of_step h step
    exact ⟨hkept.symm, hnext⟩
  | asked step =>
    obtain ⟨hkept, -, hnext⟩ := Job.Keeps.of_step h step
    exact ⟨hkept.trans (m.ask_kept _).symm, hnext⟩
  | @finished _ _ _ job outcome step =>
    have hkept := Job.Keeps.of_step h step
    cases outcome with
    | ok _ => exact hkept
    | error failure => exact ⟨hkept, Engine.apology_aside _ _ _⟩
  | sighed => exact h
  | @pleaded _ _ i q next =>
    obtain ⟨hkept, haside, hasks⟩ := h
    have hask : m.run [.worked i c (.asked q)] = m := m.ask_of_aside haside
    rw [hask]
    refine ⟨hkept, fun kept r => ?_⟩
    rw [Memory.hear_of_aside _ haside]
    exact ⟨rfl, hasks r⟩
  | settled => exact h.1
  | @heard _ _ _ _ question answer =>
    obtain ⟨rfl, hnext⟩ := h
    exact hnext m.kept (answer question.request)

/-- **What the record of a desk says about its session is so**, after every run. -/
theorem Desk.Keeps.run {d d' : Desk} {os : List Occurrence} (h : d.Keeps systemPrompt m)
    (hr : Run config systemPrompt c d os d') : d'.Keeps systemPrompt (m.run os) := by
  induction hr with
  | nil => exact h
  | snoc _ next ih =>
    rw [Memory.run_append]
    exact ih.next next

/-- A turn that is started as the first one of its unit of work begins as the memory has it. -/
theorem Desk.Keeps.begins {d d' : Desk} {i : Nat} {turn : Agent.Turn}
    (h : d.Keeps systemPrompt m) (hfresh : m.fresh = true)
    (hn : Next config systemPrompt c d [.worked i c (.asked (.agent (.start turn)))] d') :
    m.Begins systemPrompt turn := by
  cases hn with
  | asked step =>
    obtain ⟨-, hbegins, -⟩ := Job.Keeps.of_step h step
    exact hbegins hfresh turn rfl
  | pleaded => exact h.2.1.elim

end Keeps

end ChatRelay
