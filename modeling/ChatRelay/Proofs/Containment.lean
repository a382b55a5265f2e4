import ChatRelay.Proofs.Desk.Projection
import ChatRelay.Proofs.Posting
import ChatRelay.Proofs.Reset

/-!
# Failures of the chat platform stay where they are

Whatever the chat platform replies, directives are carried out up to the first question, and every
question gets an answer. So the chat platform cannot make a unit of work fail.

`Dialogue.YieldsUnder` says what the results of a dialogue are when something is promised about the
replies. `Outside.unfailing` promises nothing about the chat platform, and about everybody else that
they do not fail. Under this promise a conversation ends well (`Conversation.Calm.step`), and so
does a unit of work (`Job.Calm.step`), so that no worker ever has to apologise.

The main statement is `Situation.failures_contained`.
-/

namespace ChatRelay

/-! ## Results under a promise -/

/-- What is promised about the replies of a service. -/
abbrev Service.Promise (P : Service) : Type := (q : P.Request) → P.Reply q → Prop

namespace Dialogue

variable {P Q : Service} {α β : Type} {promise : P.Promise}

/-- All results have a property, as long as the replies are as promised. -/
def YieldsUnder (promise : P.Promise) (p : α → Prop) : Dialogue P α → Prop
  | done a => p a
  | say _ rest => rest.YieldsUnder promise p
  | ask q rest => ∀ r, promise q r → (rest r).YieldsUnder promise p

/-- What all results have they have under any promise. -/
theorem Yields.under {p : α → Prop} {d : Dialogue P α} (h : d.Yields p) :
    d.YieldsUnder promise p := by
  induction d with
  | done a => exact h
  | say line rest ih => exact ih h
  | ask q rest ih => exact fun r _ => ih r (h r)

/-- What goes on with results under a promise ends with the results of what comes behind. -/
theorem yieldsUnder_bind {p : α → Prop} {p' : β → Prop} {d : Dialogue P α} {f : α → Dialogue P β}
    (hd : d.YieldsUnder promise p) (hf : ∀ a, p a → (f a).YieldsUnder promise p') :
    (d.bind f).YieldsUnder promise p' := by
  induction d with
  | done a => exact hf a hd
  | say line rest ih => exact ih hd
  | ask q rest ih => exact fun r hr => ih r (hd r hr)

/-- By way of another service that keeps the promise a dialogue has the same results. -/
theorem yieldsUnder_via {promise' : Q.Promise} {p : α → Prop}
    {through : (q : P.Request) → Dialogue Q (P.Reply q)} {d : Dialogue P α}
    (hd : d.YieldsUnder promise p) (ht : ∀ q, (through q).YieldsUnder promise' (promise q)) :
    (d.via through).YieldsUnder promise' p := by
  induction d with
  | done a => exact hd
  | say line rest ih => exact ih hd
  | ask q rest ih => exact yieldsUnder_bind (ht q) fun r hr => ih r (hd r hr)

end Dialogue

namespace Step

variable {P : Service} {σ τ ρ υ : Type} {promise : P.Promise}

/-- Wherever a step leads when the reply is as promised, the next state has a property, and so has
the result when the machine has finished. -/
def LeadsUnder (promise : P.Promise) (p : σ → Prop) (p' : ρ → Prop) : Step P σ ρ → Prop
  | .finished r => p' r
  | .silent next => p next
  | .say _ next => p next
  | .ask q next => ∀ r, promise q r → p (next r)

/-- A machine inside another one leads there, under the same promise, to where the other one has to
be. -/
theorem LeadsUnder.inside {p : σ → Prop} {p' : ρ → Prop} {q : τ → Prop} {q' : υ → Prop}
    {step : Step P σ ρ} (h : step.LeadsUnder promise p p') {wrap : σ → τ} {after : ρ → τ}
    (hwrap : ∀ s, p s → q (wrap s)) (hafter : ∀ r, p' r → q (after r)) :
    (step.inside wrap after : Step P τ υ).LeadsUnder promise q q' := by
  cases step with
  | finished r => exact hafter r h
  | silent next => exact hwrap next h
  | say line next => exact hwrap next h
  | ask q next => exact fun r hr => hwrap _ (h r hr)

end Step

/-- A dialogue goes on to the results that it has. -/
theorem Dialogue.YieldsUnder.step {P : Service} {α : Type} {promise : P.Promise} {p : α → Prop}
    {d : Dialogue P α} (h : d.YieldsUnder promise p) :
    d.step.LeadsUnder promise (Dialogue.YieldsUnder promise p) p := by
  cases d <;> exact h

/-! ## Nobody fails but the chat platform -/

/-- An event with a text that can be read, if it has one. -/
def Agent.Event.IsReadable (e : Agent.Event) : Prop :=
  e.kind = .text → ∃ ds, (Response.read e.text).directives = .ok ds

/-- The agent, the web and the store do not fail, and all that the agent writes can be read. The
disk may refuse to remove a file. About the chat platform nothing is said. -/
def Outside.unfailing : Outside.service.Promise
  | .chat _, _ => True
  | .agent .next, reply =>
    ∃ event : Option Agent.Event, reply = .ok event ∧ ∀ e, event = some e → e.IsReadable
  | .disk (.remove _), reply => ∀ e, reply = .error e → ∃ refusal, e = .disk refusal
  | .agent (.start _), reply => ∃ value, reply = .ok value
  | .agent .close, reply => ∃ value, reply = .ok value
  | .disk _, reply => ∃ value, reply = .ok value
  | .web _, reply => ∃ value, reply = .ok value
  | .freshName, reply => ∃ value, reply = .ok value
  | .store _, reply => ∃ value, reply = .ok value

/-- What a unit of work asks of the outside does not fail, and neither does the engine. -/
def Work.unfailing : Work.service.Promise
  | .outside q, reply => Outside.unfailing q reply
  | .recall, reply => ∃ value, reply = .ok value
  | .report _, reply => ∃ value, reply = .ok value

/-- What a unit of work does outside has the same results under the promise about the outside. -/
theorem Work.yieldsUnder_ofOutside {α : Type} {p : α → Prop} {d : Dialogue Outside.service α}
    (h : d.YieldsUnder Outside.unfailing p) : (Work.ofOutside d).YieldsUnder Work.unfailing p :=
  Dialogue.yieldsUnder_via h fun _ _ hr => hr

namespace Attachment

/-- Files are removed, or the disk refuses to remove some. -/
theorem yieldsUnder_cleanup (paths : List String) :
    (cleanup paths).YieldsUnder Outside.unfailing (· = .ok ()) := by
  induction paths with
  | nil => rfl
  | cons path rest ih =>
    intro r hr
    match r with
    | .ok _ => exact ih
    | .error e =>
      obtain ⟨refusal, rfl⟩ := hr e rfl
      exact ih

/-- Fetching attachments ends with files, as long as only the chat platform fails. -/
theorem yieldsUnder_fetchAll (directory : Path) (written : List String)
    (attachments : List Incoming.Attachment) :
    (fetchAll directory written attachments).YieldsUnder Outside.unfailing
      fun r => ∃ files, r = .ok files := by
  induction attachments generalizing written with
  | nil => exact ⟨written, rfl⟩
  | cons a rest ih =>
    rintro _ ⟨unique, rfl⟩ _ ⟨contents, rfl⟩ _ ⟨_, rfl⟩
    exact ih _

/-- Attachments are fetched. -/
theorem yieldsUnder_download (directory : String) (attachments : List Incoming.Attachment) :
    (download directory attachments).YieldsUnder Outside.unfailing
      fun r => ∃ files, r = .ok files := by
  unfold download
  split
  · exact ⟨[], rfl⟩
  · rintro _ ⟨_, rfl⟩
    exact yieldsUnder_fetchAll _ _ _

end Attachment

namespace Conversation

/-- The work on an event that can be read comes to an end without a failure. -/
theorem yieldsUnder_react (place : Place) (known : Option String) {e : Agent.Event}
    (hread : e.IsReadable) : (react place known e).YieldsUnder Work.unfailing
      fun verdict => ∃ question, verdict = .ok question := by
  have hreport : (reportSession known e).YieldsUnder Work.unfailing (· = .ok ()) := by
    unfold reportSession
    split
    · rfl
    · split
      · rfl
      · rintro _ ⟨_, rfl⟩
        rfl
  refine Dialogue.yieldsUnder_bind hreport ?_
  rintro _ rfl
  dsimp only
  unfold heed
  split
  · exact ⟨none, rfl⟩
  · split <;> exact ⟨none, rfl⟩
  · rename_i hkind
    split
    · exact ⟨none, rfl⟩
    · obtain ⟨ds, hds⟩ := hread hkind
      refine ((yields_carryOut place e.text).mono ?_).under
      rintro _ rfl
      rw [Response.verdict, hds]
      exact ⟨_, rfl⟩

/-- A conversation that has not failed, and in which nothing is underway that fails. -/
def Calm (c : Conversation) : Prop :=
  match c.phase with
  | .reacting work =>
    work.YieldsUnder Work.unfailing fun verdict => ∃ question, verdict = .ok question
  | .closing verdict => ∃ question, verdict = .ok question
  | .over outcome => outcome = .ok ()
  | _ => True

/-- A conversation fails at no step. -/
theorem Calm.step {c : Conversation} (h : c.Calm) :
    c.step.LeadsUnder Work.unfailing Calm (· = .ok ()) := by
  obtain ⟨setup, session, turnCount, depth, rounds, phase⟩ := c
  cases phase with
  | prompting prompt =>
    simp only [Conversation.step, prompted]
    split
    · exact rfl
    · trivial
  | starting prompt =>
    rintro _ ⟨_, rfl⟩
    trivial
  | listening =>
    rintro _ ⟨event, rfl, hread⟩
    cases event with
    | none => exact ⟨none, rfl⟩
    -- A text that can be read comes to a verdict without a failure.
    | some e => exact yieldsUnder_react setup.place session (hread e rfl)
  | reacting work =>
    refine (Dialogue.YieldsUnder.step h).inside (fun _ hwork => hwork) ?_
    rintro _ ⟨question, rfl⟩
    cases question with
    | none => trivial
    | some question => exact ⟨_, rfl⟩
  | closing verdict =>
    obtain ⟨question, rfl⟩ := h
    rintro _ ⟨_, rfl⟩
    cases question with
    | none => exact rfl
    | some question => trivial
  | asked question =>
    simp only [Conversation.step, questioned]
    split
    · exact rfl
    · trivial
  | answering work =>
    exact work.yields_true.under.step.inside (fun _ _ => trivial) fun _ _ => trivial
  | «over» outcome => exact h

end Conversation

namespace Job

/-- A unit of work that has not failed, and in which nothing is underway that fails. -/
def Calm (j : Job) : Prop :=
  match j.phase with
  | .fetching _ work => work.YieldsUnder Work.unfailing fun r => ∃ files, r = .ok files
  | .recalling _ => True
  | .talking c => c.Calm
  | .tidying outcome work => outcome = .ok () ∧ work.YieldsUnder Work.unfailing (· = .ok ())
  | .over outcome => outcome = .ok ()

/-- A unit of work fails at no step. -/
theorem Calm.step {j : Job} (h : j.Calm) :
    j.step.LeadsUnder Work.unfailing Calm (· = .ok ()) := by
  obtain ⟨settings, systemPrompt, work, files, phase⟩ := j
  cases phase with
  | fetching m download =>
    refine (Dialogue.YieldsUnder.step h).inside (fun _ hdownload => hdownload) ?_
    rintro _ ⟨files, rfl⟩
    trivial
  | recalling prompt =>
    rintro _ ⟨session, rfl⟩
    trivial
  | talking c =>
    refine (Conversation.Calm.step h).inside (fun _ hc => hc) ?_
    rintro _ rfl
    exact ⟨rfl, Work.yieldsUnder_ofOutside (Attachment.yieldsUnder_cleanup files)⟩
  | tidying outcome cleaning =>
    obtain ⟨rfl, hcleaning⟩ := h
    refine hcleaning.step.inside (fun _ hrest => ⟨rfl, hrest⟩) ?_
    rintro _ rfl
    exact rfl
  | «over» outcome => exact h

/-- A unit of work that begins is calm. -/
theorem calm_begin (settings : EngineSettings) (systemPrompt : Option String) (work : Work) :
    (Job.begin settings systemPrompt work).Calm := by
  unfold Job.begin
  cases work.item with
  | message m => exact Work.yieldsUnder_ofOutside (Attachment.yieldsUnder_download _ _)
  | reaction r => trivial

end Job

/-! ## Workers -/

/-- A worker that does not apologise, and whose unit of work does not fail. -/
def Worker.Phase.Calm : Worker.Phase → Prop
  | .free => True
  | .busy job => job.Calm
  | .apologising _ => False

/-- What is heard is as promised. -/
def Occurrence.IsUnfailing : Occurrence → Prop
  | .worked _ _ (.heard q reply) => Outside.unfailing q reply
  | _ => True

/-- Whether a unit of work has failed. -/
def Occurrence.isFailure : Occurrence → Bool
  | .worked _ _ (.ended failed) => failed
  | _ => false

namespace Desk

/-- No worker at the desk apologises, nor will it when it gets the reply that it waits for. -/
def Calm (d : Desk) : Prop :=
  ∀ i phase question, d.worker = some (i, phase, question) → phase.Calm ∧
    ∀ q, question = some q → ∀ r, Outside.unfailing q.request r → (q.next r).Calm

variable {config : Config} {systemPrompt : Option String} {c : String}

/-- A desk is calm where its worker is and waits for nothing. -/
theorem calm_of_resting {queue : Queue} {session : Option Text.Wide} {i : Nat}
    {phase : Worker.Phase} (h : phase.Calm) : Calm ⟨queue, session, some (i, phase, none)⟩ := by
  rintro _ _ _ ⟨⟩
  refine ⟨h, ?_⟩
  rintro _ ⟨⟩

/-- A desk whose worker waits is calm where the worker is calm whatever unfailing answer comes. -/
theorem calm_of_waiting {queue : Queue} {session : Option Text.Wide} {i : Nat}
    {phase : Worker.Phase} {q : Question} (h : phase.Calm)
    (hq : ∀ r, Outside.unfailing q.request r → (q.next r).Calm) :
    Calm ⟨queue, session, some (i, phase, some q)⟩ := by
  rintro _ _ _ ⟨⟩
  refine ⟨h, ?_⟩
  rintro _ ⟨⟩
  exact hq

/-- At a calm desk a unit of work takes a step that fails nowhere. -/
theorem Calm.of_step {queue : Queue} {session : Option Text.Wide} {i : Nat} {job : Job}
    {question : Option Question} {step : Step Work.service Job (Except Failure Unit)}
    (h : Calm ⟨queue, session, some (i, .busy job, question)⟩) (hstep : job.step = step) :
    step.LeadsUnder Work.unfailing Job.Calm (· = .ok ()) :=
  hstep ▸ Job.Calm.step (h _ _ _ rfl).1

/-- At a calm desk no unit of work fails. -/
theorem Calm.isFailure_eq_false {d d' : Desk} {os : List Occurrence} (h : d.Calm)
    (hn : Next config systemPrompt c d os d') : ∀ o ∈ os, o.isFailure = false := by
  cases hn with
  | finished step =>
    cases show _ = Except.ok () from h.of_step step
    simp [Occurrence.isFailure, Except.isOk, Except.toBool]
  | _ => simp [Occurrence.isFailure]

/-- A calm desk stays calm as long as what is heard is as promised. -/
theorem Calm.next {d d' : Desk} {os : List Occurrence} (h : d.Calm)
    (hos : ∀ o ∈ os, o.IsUnfailing) (hn : Next config systemPrompt c d os d') : d'.Calm := by
  cases hn with
  | queued admitted channel => exact h
  | called i admitted channel => exact calm_of_resting trivial
  | reset e answer rest => exact h
  | left => rintro _ _ _ ⟨⟩
  | took => exact calm_of_resting (Job.calm_begin _ _ _)
  | silent step => exact calm_of_resting (h.of_step step)
  | said step => exact calm_of_resting (h.of_step step)
  | recalled step => exact calm_of_resting (h.of_step step _ ⟨_, rfl⟩)
  | known step => exact calm_of_resting (h.of_step step _ ⟨_, rfl⟩)
  | reported step other => exact calm_of_waiting (h _ _ _ rfl).1 (h.of_step step)
  | asked step => exact calm_of_waiting (h _ _ _ rfl).1 (h.of_step step)
  | finished step =>
    cases show _ = Except.ok () from h.of_step step
    exact calm_of_resting trivial
  | sighed => exact (h _ _ _ rfl).1.elim
  | pleaded => exact (h _ _ _ rfl).1.elim
  | settled => exact (h _ _ _ rfl).1.elim
  | heard answer =>
    have hheard := hos _ (List.mem_singleton_self _)
    exact calm_of_resting ((h _ _ _ rfl).2 _ rfl _ hheard)

/-- A run in which only the chat platform fails leaves a calm desk calm, and reports no failure. -/
theorem Calm.run {d d' : Desk} {os : List Occurrence} (h : d.Calm)
    (hos : ∀ o ∈ os, o.IsUnfailing) (hr : Run config systemPrompt c d os d') :
    d'.Calm ∧ ∀ o ∈ os, o.isFailure = false := by
  induction hr with
  | nil => exact ⟨h, List.forall_mem_nil _⟩
  | snoc _ next ih =>
    obtain ⟨hfirst, hsecond⟩ := List.forall_mem_append.mp hos
    obtain ⟨hcalm, hnone⟩ := ih hfirst
    exact ⟨hcalm.next hsecond next,
      List.forall_mem_append.mpr ⟨hnone, hcalm.isFailure_eq_false next⟩⟩

end Desk

namespace Situation

/-- Where nobody fails but the chat platform, no unit of work fails and no worker apologises. -/
theorem calm_of_unfailing {config : Config} {systemPrompt : Option String}
    {sessions : SessionTable} {ms : List Move}
    (h : ∀ o ∈ ((start config systemPrompt sessions).run ms).record, o.IsUnfailing) :
    let s := (start config systemPrompt sessions).run ms
    (∀ o ∈ s.record, o.isFailure = false) ∧
      ∀ w ∈ s.engine.workers, ∀ apology, w.2.phase ≠ .apologising apology := by
  intro s
  have hstart := start_sound config systemPrompt sessions
  have hdesk : ∀ c, (s.desk c).Calm ∧ ∀ o ∈ s.recordOf c, o.isFailure = false := by
    intro c
    obtain ⟨os, hrecord, hrun⟩ := desk_run hstart ms c
    have hos : ∀ o ∈ os, o.IsUnfailing := by
      intro o ho
      have hmem : o ∈ s.recordOf c := hrecord ▸ ho
      exact h o (List.mem_of_mem_filter hmem)
    have hempty : ((start config systemPrompt sessions).desk c).Calm := by
      intro i phase question hworker
      have hnone : ((start config systemPrompt sessions).desk c).worker = none := rfl
      rw [hnone] at hworker
      cases hworker
    rw [show s.recordOf c = os from hrecord]
    exact hempty.run hos hrun
  constructor
  · intro o ho
    cases o with
    | received item admitted notes => rfl
    | reset c events => rfl
    | worked i c deed => exact (hdesk c).2 _ (List.mem_filter.mpr ⟨ho, beq_self_eq_true c⟩)
  · intro w hw apology happologising
    have hsound := (run_sound hstart ms).1.staffed
    have hworker := Engine.worker?_of_mem hsound hw
    have hcalm := (hdesk w.2.channel).1
    rw [desk_of_worker hsound hworker] at hcalm
    have hphase : w.2.phase.Calm := (hcalm _ _ _ rfl).1
    rw [happologising] at hphase
    exact hphase

/-- **Failures of the chat platform stay where they are.** Whatever the chat platform replies,
directives come to the first question among them, output that is held back is posted as far as it
can be, a message that cannot be fetched is none, and a history command gets an answer. So in a run
in which nobody else fails, no unit of work fails, and no worker apologises. -/
theorem failures_contained :
    (∀ {σ : Type} (answer : σ → (q : Chat.service.Request) → Chat.service.Reply q × σ) (s : σ)
      (place : Place),
      (∀ ds, ((Outbox.dispatch place ds).run answer s).1 = ds.findSome? Directive.feedback?) ∧
      (∀ p, Outbox.Posted place p ((Outbox.flush place p).run answer s).2.2) ∧
      (∀ id, ((Outbox.fetchForExec place id).run answer s).1 =
        (answer s (.fetch place.channelId id)).1.toOption) ∧
      ∀ request, History.IsAnswer request ((History.answer place request).run answer s).1) ∧
    ∀ (config : Config) (systemPrompt : Option String) (sessions : SessionTable) (ms : List Move),
      let s := (start config systemPrompt sessions).run ms
      (∀ o ∈ s.record, o.IsUnfailing) →
        (∀ o ∈ s.record, o.isFailure = false) ∧
          ∀ w ∈ s.engine.workers, ∀ apology, w.2.phase ≠ .apologising apology := by
  constructor
  · intro σ answer s place
    refine ⟨fun ds => ?_, fun p => ?_, fun id => ?_, fun request => ?_⟩
    · exact (Dialogue.plays_run answer s _).yields (Outbox.yields_dispatch place ds)
    · exact Outbox.posted_of_plays (Dialogue.plays_run answer s _)
    · unfold Outbox.fetchForExec
      rw [Dialogue.run.eq_def]
      dsimp only
      cases (answer s (.fetch place.channelId id)).1 <;> rfl
    · exact (Dialogue.plays_run answer s _).yields (History.yields_answer place request)
  · intro config systemPrompt sessions ms s hunfailing
    exact calm_of_unfailing hunfailing

/-- The agent has a message sent, the chat platform refuses it, and the agent says nothing more. -/
def refusedRun : Situation :=
  let item : Incoming := .reaction
    { emoji := "x", messageId := "1", channelId := "100", channelName := "general", userId := "42" }
  let saying := reporting (some { kind := .text, text := "!discord send hi" })
  let ended := reporting none
  let moves : List Move := [.receive item, .work 1, .work 1, .work 1, .work 1, .reply 1 ended,
    .work 1, .reply 1 saying, .work 1, .work 1, .reply 1 ended, .work 1, .work 1, .work 1,
    .reply 1 ended, .work 1, .reply 1 ended, .work 1, .work 1, .work 1]
  (start { token := "", operator := "42", model := "", channels := [{ name := "general" }] }
    none .empty).run moves

/-- In that run nobody fails but the chat platform, and the unit of work ends well. -/
theorem failures_contained_in_refusedRun :
    (∀ o ∈ refusedRun.record, o.IsUnfailing) ∧ (∀ o ∈ refusedRun.record, o.isFailure = false) ∧
      (∀ w ∈ refusedRun.engine.workers, ∀ apology, w.2.phase ≠ .apologising apology) ∧
      ∃ before after, refusedRun.record =
        before ++ .worked 1 "100" (.heard (.chat (.send "100" "hi" []))
          (.error (.service "" ""))) :: (after ++ [.worked 1 "100" (.ended false)]) := by
  obtain ⟨before, after, hrecord, hbefore, hafter⟩ : ∃ before after, refusedRun.record =
      before ++ .worked 1 "100" (.heard (.chat (.send "100" "hi" []))
        (.error (.service "" ""))) :: (after ++ [.worked 1 "100" (.ended false)]) ∧
      (∀ o ∈ before, o.IsUnfailing) ∧ ∀ o ∈ after, o.IsUnfailing := by
    have hreadable : Agent.Event.IsReadable { kind := .text, text := "!discord send hi" } :=
      fun _ => ⟨_, rfl⟩
    refine ⟨[.received _ true _, .worked 1 "100" (.took _), .worked 1 "100" (.said _),
      .worked 1 "100" (.asked (.agent (.start _))),
      .worked 1 "100" (.heard (.agent (.start _)) (.ok ())),
      .worked 1 "100" (.asked (.agent .next)),
      .worked 1 "100" (.heard (.agent .next) (.ok (some _))), .worked 1 "100" (.said _),
      .worked 1 "100" (.asked (.chat _))],
      [.worked 1 "100" (.said _), .worked 1 "100" (.asked (.agent .next)),
      .worked 1 "100" (.heard (.agent .next) (.ok none)),
      .worked 1 "100" (.asked (.agent .close)),
      .worked 1 "100" (.heard (.agent .close) (.ok ()))], rfl, ?_, ?_⟩
    · simp only [List.forall_mem_cons, Occurrence.IsUnfailing, Outside.unfailing, true_and]
      refine ⟨⟨(), rfl⟩, ⟨some _, rfl, ?_⟩, List.forall_mem_nil _⟩
      rintro _ ⟨⟩
      exact hreadable
    · simp only [List.forall_mem_cons, Occurrence.IsUnfailing, Outside.unfailing, true_and]
      refine ⟨⟨none, rfl, ?_⟩, ⟨(), rfl⟩, List.forall_mem_nil _⟩
      rintro _ ⟨⟩
  have hunfailing : ∀ o ∈ refusedRun.record, o.IsUnfailing := by
    rw [hrecord]
    refine List.forall_mem_append.mpr ⟨hbefore, List.forall_mem_cons.mpr ⟨trivial, ?_⟩⟩
    exact List.forall_mem_append.mpr ⟨hafter, List.forall_mem_singleton.mpr trivial⟩
  obtain ⟨hnone, hcalm⟩ := failures_contained.2 _ _ _ _ hunfailing
  exact ⟨hunfailing, hnone, hcalm, before, after, hrecord⟩

end Situation

end ChatRelay
