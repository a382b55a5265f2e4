import ChatRelay.Proofs.Doing
import ChatRelay.Proofs.Queueing

/-!
# The worker at its desk

`Desk.Does` ties what the deeds of a worker say to what it is about to do: all that is left of the
work on an event, or on a question, is allowed by what the chat platform was asked for it so far.
Every step at a desk keeps that. `Desk.Admits` says that only admitted events are worked on.

So every request to the chat platform is made for a reason that stands in the deeds before it
(`Situation.permitted`), and every turn of the agent belongs to a unit of work
(`Situation.at_work`), whose event was admitted (`Situation.admitted_of_took`).
-/

namespace ChatRelay

open Dialogue (Event)

/-! ## What is left of the work -/

/-- What is left of the work at a stage: all of it is allowed, nothing is asked of the agent or the
store, and its results have a property. -/
structure Doing.Proceeds {α : Type} (x : Doing) (place : Place) (p : α → Prop)
    (work : Dialogue Work.service α) : Prop where
  within : Work.Within (x.stage.Allows place) x.talk work
  apart : work.Asks Work.Request.IsApart
  yields : work.Yields p

/-- A conversation goes on as the deeds say. -/
def Conversation.Does (x : Doing) (place : Place) (c : Conversation) : Prop :=
  c.setup.place = place ∧
    match c.phase with
    | .reacting work => ∃ e, x.stage = .heeding e ∧
        x.Proceeds place (fun verdict => ∀ question, verdict = .ok question →
          question = e.question?) work
    | .closing verdict => ∀ question, verdict = .ok (some question) →
        ∃ e, x.stage = .heeding e ∧ e.question? = some question
    | .asked question => ∃ e, x.stage = .closed e ∧ x.talk = [] ∧ e.question? = some question
    | .answering work => x.Proceeds place (fun _ => True) work
    | .prompting _ | .starting _ | .listening | .over _ => True

/-- A unit of work goes on as the deeds say. -/
def Job.Does (x : Doing) (j : Job) : Prop :=
  x.work = some j.work ∧
    match j.phase with
    | .fetching _ work => x.Proceeds j.work.place (fun _ => True) work
    | .talking c => c.Does x j.work.place
    | .tidying _ work => x.Proceeds j.work.place (fun _ => True) work
    | .recalling _ | .over _ => True

/-- A step that goes on as the deeds say: what it asks of the chat platform is allowed, and what it
leads to goes on as the deeds say then. -/
def Step.Does {σ ρ : Type} (place : Place) (does : Doing → σ → Prop) (done : ρ → Prop)
    (x : Doing) : Step Work.service σ ρ → Prop
  | .finished r => done r
  | .silent next => does x next
  | .say _ next => does x next
  | .ask (.outside q) next =>
    (∀ q', q = .chat q' → x.stage.Allows place x.talk q') ∧ ∀ r, does ((x.ask q).hear q r) (next r)
  | .ask .recall next => ∀ r, does x (next r)
  | .ask (.report _) next => ∀ r, does x (next r)

section Steps

variable {x : Doing} {place : Place}

/-- A machine inside another one goes on as the deeds say, and so does the other one. -/
theorem Step.Does.inside {σ τ ρ υ : Type} {does : Doing → σ → Prop} {done : ρ → Prop}
    {does' : Doing → τ → Prop} {done' : υ → Prop} {wrap : σ → τ} {after : ρ → τ}
    {step : Step Work.service σ ρ} (h : step.Does place does done x)
    (hwrap : ∀ x' s, x'.work = x.work → does x' s → does' x' (wrap s))
    (hafter : ∀ r, done r → does' x (after r)) :
    (step.inside wrap after : Step Work.service τ υ).Does place does' done' x := by
  cases step with
  | finished r => exact hafter r h
  | silent next => exact hwrap _ _ rfl h
  | say line next => exact hwrap _ _ rfl h
  | ask q next =>
    cases q with
    | outside q => exact ⟨h.1, fun r => hwrap _ _ (by simp) (h.2 r)⟩
    | «recall» => exact fun r => hwrap _ _ rfl (h r)
    | report id => exact fun r => hwrap _ _ rfl (h r)

/-- Where no files are asked for, nothing is asked of the chat platform. -/
theorem Work.elsewhere_ofOutside {α : Type} {d : Dialogue Outside.service α}
    (h : d.Asks Outside.Request.IsFile) :
    (Work.ofOutside d).Asks Work.Request.IsElsewhere :=
  Dialogue.asks_via h fun q hq => by
    cases q with
    | chat _ => exact hq.elim
    | _ => exact ⟨trivial, fun _ => trivial⟩

namespace Doing

variable {α : Type} {p : α → Prop}

/-- Files are fetched and removed without the chat platform. -/
theorem proceeds_ofOutside {d : Dialogue Outside.service α} (h : d.Asks Outside.Request.IsFile) :
    x.Proceeds place (fun _ => True) (Work.ofOutside d) where
  within := Work.within_of_elsewhere (Work.elsewhere_ofOutside h)
  apart := (Work.asks_ofOutside (h.mono fun _ => Outside.Request.IsFile.isAside)).mono
    fun _ => Work.isApart_of_isAside
  yields := Dialogue.yields_true _

/-- The work goes on at the same stage. -/
theorem Proceeds.step {work : Dialogue Work.service α} (h : x.Proceeds place p work) :
    work.step.Does place (fun x' work' => x'.stage = x.stage ∧ x'.Proceeds place p work') p x := by
  obtain ⟨hwithin, hasks, hyields⟩ := h
  cases work with
  | done a => exact hyields
  | say line rest => exact ⟨rfl, hwithin.said, hasks, hyields⟩
  | ask q rest =>
    cases q with
    | «recall» =>
      exact fun r => ⟨rfl, hwithin.elsewhere (q := .recall) trivial r, hasks.2 r, hyields r⟩
    | report id =>
      exact fun r => ⟨rfl, hwithin.elsewhere (q := .report id) trivial r, hasks.2 r, hyields r⟩
    | outside q =>
      cases q with
      | agent q => exact (hasks.1 : False).elim
      | store change => exact (hasks.1 : False).elim
      | chat q =>
        obtain ⟨hallowed, hrest⟩ := hwithin.called
        refine ⟨?_, fun r => ⟨rfl, hrest r, hasks.2 r, hyields r⟩⟩
        rintro q' ⟨⟩
        exact hallowed
      | disk q =>
        exact ⟨nofun, fun r => ⟨rfl, hwithin.elsewhere (q := .outside (.disk q)) trivial r,
          hasks.2 r, hyields r⟩⟩
      | web url =>
        exact ⟨nofun, fun r => ⟨rfl, hwithin.elsewhere (q := .outside (.web url)) trivial r,
          hasks.2 r, hyields r⟩⟩
      | freshName =>
        exact ⟨nofun, fun r => ⟨rfl, hwithin.elsewhere (q := .outside .freshName) trivial r,
          hasks.2 r, hyields r⟩⟩

end Doing

namespace Conversation

variable {c : Conversation}

/-- Where a prompt is there, nothing is asked of the chat platform. -/
theorem does_prompted (prompt : String) :
    (c.prompted prompt).Does c.setup.place (fun x' c' => c'.Does x' c.setup.place)
      (fun _ => True) x := by
  unfold prompted
  split <;> exact ⟨rfl, trivial⟩

/-- When the turn says something, the work on it is allowed by that event and by no earlier one. -/
theorem does_hear (r : Except Failure (Option Agent.Event)) :
    (c.hear r).Does (x.hear (.agent .next) r) c.setup.place := by
  rcases r with e | _ | e
  · exact ⟨rfl, nofun⟩
  · exact ⟨rfl, nofun⟩
  · exact ⟨rfl, e, rfl, within_react c.setup.place c.session e,
      asks_react c.setup.place c.session e, yields_react c.setup.place c.session e⟩

/-- When the work on an event has ended with a question, it is the question of the event. -/
theorem does_judge {e : Agent.Event} (hstage : x.stage = .heeding e) {verdict : Verdict}
    (hverdict : ∀ question, verdict = .ok question → question = e.question?) :
    (c.judge verdict).Does x c.setup.place := by
  rcases verdict with failure | _ | question
  · exact ⟨rfl, nofun⟩
  · exact ⟨rfl, trivial⟩
  · refine ⟨rfl, ?_⟩
    rintro question' ⟨⟩
    exact ⟨e, hstage, (hverdict _ rfl).symm⟩

/-- When the turn is closed, its question is still the one of the event that it was closed at. -/
theorem does_leave {verdict : Verdict}
    (h : ∀ question, verdict = .ok (some question) →
      ∃ e, x.stage = .heeding e ∧ e.question? = some question) (r : Except Failure Unit) :
    (c.leave verdict r).Does (x.hear (.agent .close) r) c.setup.place := by
  rcases r with failure | _
  · exact ⟨rfl, trivial⟩
  · rcases verdict with failure | _ | question
    · exact ⟨rfl, trivial⟩
    · exact ⟨rfl, trivial⟩
    · obtain ⟨e, hstage, hquestion⟩ := h question rfl
      exact ⟨rfl, e, congrArg Doing.Stage.close hstage, rfl, hquestion⟩

/-- A question is dropped, or all that is asked for its answer is allowed by it. -/
theorem does_questioned {e : Agent.Event} {question : Feedback} (hstage : x.stage = .closed e)
    (htalk : x.talk = []) (hquestion : e.question? = some question) :
    (c.questioned question).Does c.setup.place (fun x' c' => c'.Does x' c.setup.place)
      (fun _ => True) x := by
  unfold questioned
  split
  · exact ⟨rfl, trivial⟩
  · refine ⟨rfl, ?_, asks_answer c.setup question, Dialogue.yields_true _⟩
    rw [hstage, htalk]
    intro os q hq
    exact ⟨question, hquestion, within_answer c.setup question os q hq⟩

/-- A conversation that goes on as the deeds say does so at every step. -/
theorem Does.step (h : c.Does x place) :
    c.step.Does place (fun x' c' => c'.Does x' place) (fun _ => True) x := by
  obtain ⟨setup, held, turnCount, depth, rounds, phase⟩ := c
  obtain ⟨rfl, h⟩ := h
  cases phase with
  | prompting prompt => exact does_prompted prompt
  | starting prompt =>
    refine ⟨nofun, fun r => ?_⟩
    cases r with
    | error e => exact ⟨rfl, nofun⟩
    | ok _ => exact ⟨rfl, trivial⟩
  | listening => exact ⟨nofun, does_hear⟩
  | reacting work =>
    obtain ⟨e, hstage, hwork⟩ := h
    refine hwork.step.inside ?_ fun verdict hverdict => does_judge hstage hverdict
    rintro x' work' - ⟨hstage', hwork'⟩
    exact ⟨rfl, e, hstage'.trans hstage, hwork'⟩
  | closing verdict => exact ⟨nofun, does_leave h⟩
  | asked question =>
    obtain ⟨e, hstage, htalk, hquestion⟩ := h
    exact does_questioned hstage htalk hquestion
  | answering work =>
    refine h.step.inside ?_ fun prompt _ => ⟨rfl, trivial⟩
    rintro x' work' - ⟨-, hwork'⟩
    exact ⟨rfl, hwork'⟩
  | «over» outcome => trivial

end Conversation

/-- A unit of work that goes on as the deeds say does so at every step. -/
theorem Job.Does.step {j : Job} (h : j.Does x) :
    j.step.Does j.work.place (fun x' j' => j'.Does x') (fun _ => True) x := by
  obtain ⟨settings, systemPrompt, work, files, phase⟩ := j
  obtain ⟨hwork, h⟩ := h
  cases phase with
  | fetching m download =>
    refine h.step.inside ?_ fun outcome _ => ?_
    · rintro x' work' hsame ⟨-, hwork'⟩
      exact ⟨hsame.trans hwork, hwork'⟩
    · cases outcome with
      | error e => exact ⟨hwork, trivial⟩
      | ok files => exact ⟨hwork, trivial⟩
  | recalling prompt =>
    intro r
    cases r with
    | error e => exact ⟨hwork, Doing.proceeds_ofOutside (Attachment.files_cleanup _)⟩
    | ok session => exact ⟨hwork, rfl, trivial⟩
  | talking c =>
    refine (Conversation.Does.step h).inside ?_ fun outcome _ => ?_
    · intro x' c' hsame hc
      exact ⟨hsame.trans hwork, hc⟩
    · exact ⟨hwork, Doing.proceeds_ofOutside (Attachment.files_cleanup _)⟩
  | tidying outcome cleaning =>
    refine h.step.inside ?_ fun outcome' _ => ?_
    · rintro x' work' hsame ⟨-, hwork'⟩
      exact ⟨hsame.trans hwork, hwork'⟩
    · cases outcome' with
      | error e => exact ⟨hwork, trivial⟩
      | ok _ => exact ⟨hwork, trivial⟩
  | «over» outcome => trivial

/-- What a unit of work does next goes on as the deeds say. -/
theorem Job.Does.of_step {j : Job} {step : Step Work.service Job (Except Failure Unit)}
    (h : j.Does x) (hstep : j.step = step) :
    step.Does j.work.place (fun x' j' => j'.Does x') (fun _ => True) x := hstep ▸ h.step

/-- A unit of work that is begun goes on as the deeds say. -/
theorem Job.does_begin (settings : EngineSettings) (systemPrompt : Option String) (work : Work) :
    (Job.begin settings systemPrompt work).Does { work := some work } := by
  refine ⟨rfl, ?_⟩
  unfold Job.begin
  cases work.item with
  | message m => exact Doing.proceeds_ofOutside (Attachment.files_download _ _)
  | reaction r => trivial

end Steps

/-! ## The desk -/

/-- A worker of a channel goes on as its deeds say. One that apologises does that once. -/
def Worker.Phase.Does (c : String) (x : Doing) : Worker.Phase → Prop
  | .free => True
  | .busy job => job.Does x
  | .apologising rest =>
    rest.Quiet ∨ (∃ work, x.failed = some work) ∧ rest.AsksOnce (Engine.plea c)

/-- What the worker with a number is doing, as the record of its channel says. -/
def Doing.onRecord (i : Nat) (c : String) (os : List Occurrence) : Doing :=
  Doing.of (os.filterMap (Occurrence.deedOf? i c))

/-- The worker at a desk goes on as its deeds say, and so it will whatever it hears. -/
def Desk.Does (c : String) (d : Desk) (os : List Occurrence) : Prop :=
  match d.worker with
  | none => True
  | some (i, phase, none) => phase.Does c (Doing.onRecord i c os)
  | some (i, _, some question) => ∀ r,
    (question.next r).Does c ((Doing.onRecord i c os).hear question.request r)

namespace Doing

variable {i : Nat} {c : String} {os : List Occurrence}

/-- A deed of the worker goes on with what its deeds before have left to be done. -/
@[simp] theorem onRecord_worked (deed : Deed) :
    onRecord i c (os ++ [.worked i c deed]) = (onRecord i c os).after deed := by
  have hdeed : [Occurrence.worked i c deed].filterMap (Occurrence.deedOf? i c) = [deed] := by
    simp [Occurrence.deedOf?]
  rw [onRecord, List.filterMap_append, hdeed, of_concat]
  rfl

/-- What is received is no deed of the worker. -/
@[simp] theorem onRecord_received (item : Incoming) (admitted : Bool) (notes : List String) :
    onRecord i c (os ++ [.received item admitted notes]) = onRecord i c os := by
  rw [onRecord, List.filterMap_append]
  exact congrArg of (List.append_nil _)

/-- A reset is no deed of the worker. -/
@[simp] theorem onRecord_reset (channel : String) (events : List (Event Outside.service)) :
    onRecord i c (os ++ [.reset channel events]) = onRecord i c os := by
  rw [onRecord, List.filterMap_append]
  exact congrArg of (List.append_nil _)

end Doing

namespace Desk

variable {config : Config} {systemPrompt : Option String} {c : String} {d d' : Desk}
  {os os' : List Occurrence}

/-- A worker that waits for nothing goes on after one more deed. -/
theorem does_worked {queue : Queue} {session : Option Text.Wide} {i : Nat} {phase : Worker.Phase}
    {deed : Deed} : Does c ⟨queue, session, some (i, phase, none)⟩ (os ++ [.worked i c deed]) ↔
      phase.Does c ((Doing.onRecord i c os).after deed) := by
  rw [← Doing.onRecord_worked]
  rfl

/-- What is recorded that is no deed makes no difference to the worker. -/
theorem Does.of_no_deed {queue queue' : Queue} {session session' : Option Text.Wide}
    {worker : Option (Nat × Worker.Phase × Option Question)} {o : Occurrence}
    (h : Does c ⟨queue, session, worker⟩ os)
    (ho : ∀ i, Doing.onRecord i c (os ++ [o]) = Doing.onRecord i c os) :
    Does c ⟨queue', session', worker⟩ (os ++ [o]) := by
  obtain _ | ⟨i, phase, _ | question⟩ := worker
  · trivial
  · simpa only [Does, ho] using h
  · simpa only [Does, ho] using h

/-- Every step at a desk goes on as the deeds say. -/
theorem Does.next (h : d.Does c os) (hn : Next config systemPrompt c d os' d') :
    d'.Does c (os ++ os') := by
  cases hn with
  | queued admitted channel => exact h.of_no_deed fun _ => Doing.onRecord_received _ _ _
  | called i admitted channel => trivial
  | reset e answer rest => exact Does.of_no_deed h fun _ => Doing.onRecord_reset _ _
  | left => trivial
  | @took work =>
    rw [does_worked]
    exact Job.does_begin _ _ work
  | silent step =>
    rw [List.append_nil]
    exact Job.Does.of_step h step
  | said step =>
    rw [does_worked]
    exact Job.Does.of_step h step
  | recalled step =>
    rw [List.append_nil]
    exact Job.Does.of_step h step _
  | known step =>
    rw [List.append_nil]
    exact Job.Does.of_step h step _
  | reported step other =>
    intro r
    rw [Doing.onRecord_worked]
    exact Job.Does.of_step h step r
  | asked step =>
    intro r
    rw [Doing.onRecord_worked]
    exact (Job.Does.of_step h step).2 r
  | @finished _ _ _ job outcome step =>
    rw [does_worked]
    -- Only a unit of work that has failed is followed by an apology, and that is asked once.
    cases outcome with
    | ok _ => trivial
    | error failure => exact .inr ⟨⟨job.work, h.1⟩, Engine.apology_asksOnce _ _ _⟩
  | sighed =>
    rw [does_worked]
    exact h
  | pleaded =>
    rcases h with hquiet | ⟨-, rfl, hquiet⟩
    · exact hquiet.elim
    · exact fun r => .inl (hquiet r)
  | settled => trivial
  | heard answer =>
    rw [does_worked]
    exact h _

/-- Every run of a desk goes on as the deeds say. -/
theorem Does.run (h : d.Does c os) (hr : Run config systemPrompt c d os' d') :
    d'.Does c (os ++ os') := by
  induction hr with
  | nil =>
    rw [List.append_nil]
    exact h
  | snoc _ next ih =>
    rw [← List.append_assoc]
    exact ih.next next

/-- What a worker asks of the chat platform is allowed at this stage, or it is the apology for a
unit of work that has failed. -/
theorem Does.permitted (h : d.Does c os) {i : Nat} {q : Chat.Request}
    (hn : Next config systemPrompt c d [.worked i c (.asked (.chat q))] d') :
    (∃ work, (Doing.onRecord i c os).work = some work ∧
      (Doing.onRecord i c os).stage.Allows work.place (Doing.onRecord i c os).talk q) ∨
    (∃ work, (Doing.onRecord i c os).failed = some work ∧ .chat q = Engine.plea c) := by
  cases hn with
  | @asked _ _ _ job _ _ step =>
    exact .inl ⟨job.work, h.1, (Job.Does.of_step h step).1 q rfl⟩
  | pleaded =>
    rcases h with hquiet | ⟨hfailed, hplea, -⟩
    · exact hquiet.elim
    · obtain ⟨work, hwork⟩ := hfailed
      exact .inr ⟨work, hwork, hplea⟩

/-- A worker that asks the agent is at a unit of work. -/
theorem Does.at_work (h : d.Does c os) {i : Nat} {q : Agent.Request}
    (hn : Next config systemPrompt c d [.worked i c (.asked (.agent q))] d') :
    ∃ work, (Doing.onRecord i c os).work = some work := by
  cases hn with
  | @asked _ _ _ job _ _ step => exact ⟨job.work, h.1⟩
  | pleaded =>
    rcases h with hquiet | ⟨-, hplea, -⟩
    · exact hquiet.elim
    · cases hplea

end Desk

/-! ## Admission -/

/-- A unit of work that the operator has asked for, in a channel that has this profile. -/
structure Work.IsAdmitted (config : Config) (c : String) (work : Work) : Prop where
  human : work.item.isBot = false
  operator : work.item.userId = config.operator
  profile : config.findChannel work.item.channelName = some work.profile
  channel : work.item.channelId = c

namespace Desk

variable {config : Config} {systemPrompt : Option String} {c : String} {d d' : Desk}
  {os os' : List Occurrence}

/-- All that is queued at a desk or was taken there was received and admitted before. -/
def Admits (config : Config) (c : String) (d : Desk) (os : List Occurrence) : Prop :=
  ∀ work, work ∈ d.queue.items ∨ work ∈ os.filterMap Occurrence.taken? →
    work.IsAdmitted config c ∧ ∃ notes, .received work.item true notes ∈ os

/-- A step keeps that, when what is queued or taken after it was queued before. -/
theorem Admits.of_step (h : d.Admits config c os)
    (hsub : ∀ work, work ∈ d'.queue.items ∨ work ∈ os'.filterMap Occurrence.taken? →
      work ∈ d.queue.items) : d'.Admits config c (os ++ os') := by
  intro work hwork
  have hbefore : work ∈ d.queue.items ∨ work ∈ os.filterMap Occurrence.taken? := by
    rw [List.filterMap_append, List.mem_append] at hwork
    rcases hwork with hqueued | htaken | htaken
    · exact .inl (hsub work (.inl hqueued))
    · exact .inr htaken
    · exact .inl (hsub work (.inr htaken))
  obtain ⟨hadmitted, notes, hreceived⟩ := h work hbefore
  exact ⟨hadmitted, notes, List.mem_append_left _ hreceived⟩

/-- A step keeps that, when it queues an event that was received and admitted. -/
theorem Admits.queued {items : List Work} {active active' : Bool} {session : Option Text.Wide}
    {worker worker' : Option (Nat × Worker.Phase × Option Question)}
    (h : Admits config c ⟨⟨items, active⟩, session, worker⟩ os) {item : Incoming}
    {profile : ChannelProfile} {notes : List String}
    (hadmitted : item.isBot = false ∧ item.userId = config.operator ∧
      config.findChannel item.channelName = some profile) (hchannel : item.channelId = c) :
    Admits config c ⟨⟨items ++ [⟨item, profile⟩], active'⟩, session, worker'⟩
      (os ++ [.received item true notes]) := by
  intro work hwork
  have hcases :
      (work ∈ items ∨ work ∈ os.filterMap Occurrence.taken?) ∨ work = ⟨item, profile⟩ := by
    rw [List.filterMap_append, List.mem_append, List.mem_append] at hwork
    rcases hwork with (hqueued | hnew) | htaken | htaken
    · exact .inl (.inl hqueued)
    · exact .inr (List.mem_singleton.mp hnew)
    · exact .inl (.inr htaken)
    · cases htaken
  rcases hcases with hbefore | rfl
  · obtain ⟨hwork, notes', hreceived⟩ := h work hbefore
    exact ⟨hwork, notes', List.mem_append_left _ hreceived⟩
  · exact ⟨⟨hadmitted.1, hadmitted.2.1, hadmitted.2.2, hchannel⟩, notes,
      List.mem_append_right _ (List.mem_singleton.mpr rfl)⟩

/-- Whatever happens at the desk, all units of work there were admitted. -/
theorem Admits.next (h : d.Admits config c os) (hn : Next config systemPrompt c d os' d') :
    d'.Admits config c (os ++ os') := by
  cases hn with
  | queued admitted channel => exact h.queued admitted channel
  | called i admitted channel => exact h.queued admitted channel
  | took =>
    refine h.of_step fun work hwork => ?_
    rcases hwork with hrest | hfirst
    · exact List.mem_cons_of_mem _ hrest
    · rw [List.mem_singleton.mp hfirst]
      exact List.mem_cons_self
  | _ =>
    refine h.of_step fun work hwork => ?_
    rcases hwork with hqueued | htaken
    · exact hqueued
    · cases htaken

/-- In a whole run all units of work at the desk were admitted. -/
theorem Admits.run (h : d.Admits config c os) (hr : Run config systemPrompt c d os' d') :
    d'.Admits config c (os ++ os') := by
  induction hr with
  | nil =>
    rw [List.append_nil]
    exact h
  | snoc _ next ih =>
    rw [← List.append_assoc]
    exact ih.next next

end Desk

/-! ## Every run -/

namespace Situation

variable {config : Config} {systemPrompt : Option String} {sessions : SessionTable}
  {ms : List Move} {i : Nat} {c : String} {before after : List Deed}

/-- A deed in a run is a step at the desk of the channel, at which the worker has done by then what
stands before it. -/
theorem next_of_deed {deed : Deed}
    (h : ((start config systemPrompt sessions).run ms).deedsOf i c = before ++ deed :: after) :
    ∃ os d d', Desk.Next config systemPrompt c d [.worked i c deed] d' ∧ d.Does c os ∧
      d.Admits config c os ∧ os.filterMap (Occurrence.deedOf? i c) = before ∧
      os <+: ((start config systemPrompt sessions).run ms).recordOf c := by
  have hstart := start_sound config systemPrompt sessions
  obtain ⟨os, hos, hrun⟩ := desk_run hstart ms c
  rw [deedsOf_eq] at h
  obtain ⟨first, second, hrecord, hfirst, hsecond⟩ := List.filterMap_eq_append_iff.mp h
  obtain ⟨skipped, o, rest, rfl, hskipped, ho, -⟩ := List.filterMap_eq_cons_iff.mp hsecond
  have hdeed := Occurrence.deedOf?_eq_some_iff.mp ho
  subst hdeed
  have hsplit : os = (first ++ skipped) ++ .worked i c deed :: rest := by
    rw [List.append_assoc, ← hrecord, hos]
    rfl
  obtain ⟨d, d', hbefore, hnext, -⟩ := hrun.split hsplit
  have hdoes : ((start config systemPrompt sessions).desk c).Does c [] := trivial
  have hadmits : ((start config systemPrompt sessions).desk c).Admits config c [] := by
    rintro work (hqueued | htaken)
    · cases hqueued
    · cases htaken
  refine ⟨first ++ skipped, d, d', hnext, hdoes.run hbefore, hadmits.run hbefore, ?_, ?_⟩
  · rw [List.filterMap_append, hfirst, List.filterMap_eq_nil_iff.mpr hskipped, List.append_nil]
  · rw [hrecord, ← List.append_assoc]
    exact List.prefix_append _ _

/-- Every unit of work that was taken is one that the operator has asked for. -/
theorem admitted_of_took {work : Work}
    (h : .took work ∈ ((start config systemPrompt sessions).run ms).deedsOf i c) :
    work.IsAdmitted config c := by
  obtain ⟨before, after, hsplit⟩ := List.append_of_mem h
  obtain ⟨os, d, d', hnext, -, hadmits, -, -⟩ := next_of_deed hsplit
  cases hnext with
  | took => exact (hadmits work (.inl List.mem_cons_self)).1

/-- **Every request to the chat platform is made for a reason** that stands in the deeds before it:
it is allowed by the event of the agent that the worker is at, or it is the apology for a unit of
work that has failed. -/
theorem permitted {q : Chat.Request}
    (h : ((start config systemPrompt sessions).run ms).deedsOf i c =
      before ++ .asked (.chat q) :: after) :
    (∃ work, (Doing.of before).work = some work ∧
      (Doing.of before).stage.Allows work.place (Doing.of before).talk q) ∨
    (∃ work, (Doing.of before).failed = some work ∧ .chat q = Engine.plea c) := by
  obtain ⟨os, d, d', hnext, hdoes, -, rfl, -⟩ := next_of_deed h
  exact hdoes.permitted hnext

/-- Whatever is asked of the agent, a worker is at a unit of work then. -/
theorem at_work {q : Agent.Request}
    (h : ((start config systemPrompt sessions).run ms).deedsOf i c =
      before ++ .asked (.agent q) :: after) : ∃ work, (Doing.of before).work = some work := by
  obtain ⟨os, d, d', hnext, hdoes, -, rfl, -⟩ := next_of_deed h
  exact hdoes.at_work hnext

end Situation

end ChatRelay
