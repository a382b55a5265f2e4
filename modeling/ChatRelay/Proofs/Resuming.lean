import ChatRelay.Proofs.Exchange
import ChatRelay.Proofs.Reset
import Mathlib.Data.List.Induction

/-!
# Resuming a session

Every turn is started with a session that can be read off the record of its channel. The first turn
of a unit of work takes the one that the channel has, and every further turn the one that its
conversation knows, which is what `Memory.held` says. As long as the channel is not reset the two
are the same, and they are the last session that an event reported.

`Desk.Holds` is the invariant that ties what a conversation knows to the record, and the main
statement is `Situation.turn_resumes`.
-/

namespace ChatRelay

/-- The change that a request tells the store about. -/
def Outside.Request.change? : Outside.Request → Option SessionChange
  | .store change => some change
  | _ => none

/-- What is asked on the side tells the store nothing. -/
theorem Outside.Request.change?_of_isAside {q : Outside.Request} (h : q.IsAside) :
    q.change? = none := by
  cases q with
  | store change => exact h.elim
  | _ => rfl

/-- The session that an event reports which is heard. -/
def Occurrence.reported? : Occurrence → Option String
  | .worked _ _ (.heard (.agent .next) (.ok (some (e : Agent.Event)))) => e.reported?
  | _ => none

/-- The last session that is reported in a record. -/
def Memory.lastReported (os : List Occurrence) : Option String :=
  (os.filterMap Occurrence.reported?).getLast?

/-! ## What a conversation knows -/

/-- What the turn of a conversation knows is what the memory holds. -/
def Conversation.Holds (m : Memory) (c : Conversation) : Prop :=
  (m.fresh = false → c.session = m.held) ∧
    match c.phase with
    | .reacting work => work.Asks Work.Request.IsApart
    | .answering work => work.Asks Work.Request.IsApart
    | _ => True

/-- A unit of work holds on to what its conversation knows, and before the conversation no turn is
started. -/
def Job.Holds (m : Memory) (j : Job) : Prop :=
  match j.phase with
  | .fetching _ work => m.fresh = true ∧ work.Asks Work.Request.IsApart
  | .recalling _ => m.fresh = true
  | .talking c => c.Holds m
  | .tidying _ work => work.Asks Work.Request.IsApart
  | .over _ => True

/-- A step goes along with the memory: the store is left to the engine, a further turn is started
with what the memory holds, and wherever the step leads, the memory of what happens goes along. What
the channel keeps by then does not matter. -/
def Step.Holds {σ ρ : Type} (holds : Memory → σ → Prop) (m : Memory) :
    Step Work.service σ ρ → Prop
  | .finished _ => True
  | .silent next => holds m next
  | .say _ next => holds m next
  | .ask (.outside q) next =>
    q.change? = none ∧
      (m.fresh = false → ∀ turn, q = .agent (.start turn) → turn.session = m.held) ∧
      ∀ kept (r : Outside.service.Reply q), holds ({ m.ask q with kept }.hear q r) (next r)
  | .ask .recall next => ∀ r, holds m (next r)
  | .ask (.report _) next => ∀ kept r, holds { m with kept } (next r)

variable {m : Memory}

/-- A machine inside another one holds on to what the other one has to hold on to. -/
theorem Step.Holds.inside {σ τ ρ υ : Type} {holds : Memory → σ → Prop}
    {holds' : Memory → τ → Prop} {wrap : σ → τ} {after : ρ → τ} {step : Step Work.service σ ρ}
    (h : step.Holds holds m) (hwrap : ∀ m s, holds m s → holds' m (wrap s))
    (hafter : ∀ r, holds' m (after r)) :
    (step.inside wrap after : Step Work.service τ υ).Holds holds' m := by
  cases step with
  | finished r => exact hafter r
  | silent next => exact hwrap _ _ h
  | say line next => exact hwrap _ _ h
  | ask q next =>
    cases q with
    | outside q => exact ⟨h.1, h.2.1, fun kept r => hwrap _ _ (h.2.2 kept r)⟩
    | «recall» => exact fun r => hwrap _ _ (h r)
    | report id => exact fun kept r => hwrap _ _ (h kept r)

/-- What asks nothing of the agent or the store changes nothing that the memory holds. -/
theorem Dialogue.step_apart {α : Type} {work : Dialogue Work.service α}
    (hasks : work.Asks Work.Request.IsApart) :
    work.step.Holds (fun m' work' => m'.held = m.held ∧ m'.fresh = m.fresh ∧
      work'.Asks Work.Request.IsApart) m := by
  cases work with
  | done a => trivial
  | say line rest => exact ⟨rfl, rfl, hasks⟩
  | ask q rest =>
    cases q with
    | «recall» => exact fun r => ⟨rfl, rfl, hasks.2 r⟩
    | report id => exact fun kept r => ⟨rfl, rfl, hasks.2 r⟩
    | outside q =>
      cases q with
      | agent _ | store _ => exact hasks.1.elim
      | chat _ | disk _ | web _ | freshName =>
        refine ⟨rfl, fun _ turn hturn => ?_, fun kept r => ⟨rfl, rfl, hasks.2 r⟩⟩
        cases hturn

namespace Conversation

variable {c : Conversation}

/-- Whatever a turn says, the conversation knows the session that the memory holds then. -/
theorem holds_hear (hheld : m.fresh = false → c.session = m.held)
    (r : Except Failure (Option Agent.Event)) :
    (c.hear r).Holds (m.hear (.agent .next) r) := by
  rcases r with failure | _ | e
  · exact ⟨hheld, trivial⟩
  · exact ⟨hheld, trivial⟩
  · refine ⟨fun hfresh => ?_, asks_react c.setup.place c.session e⟩
    have hknown : c.session = m.held := hheld ((Memory.told_fresh m e).symm.trans hfresh)
    exact (congrArg (e.reported?.or ·) hknown).trans (Memory.told_held m e).symm

/-- Closing a turn makes no difference to what the conversation knows. -/
theorem holds_leave (hheld : m.fresh = false → c.session = m.held) (verdict : Verdict)
    (r : Except Failure Unit) : (c.leave verdict r).Holds m := by
  rcases r with failure | _
  · exact ⟨hheld, trivial⟩
  · rcases verdict with failure | question | _ <;> exact ⟨hheld, trivial⟩

/-- A conversation holds on to what it knows at every step. -/
theorem Holds.step (h : c.Holds m) : c.step.Holds Holds m := by
  obtain ⟨setup, held, turnCount, depth, rounds, phase⟩ := c
  obtain ⟨hheld, hphase⟩ := h
  have hknows : ∀ m' : Memory, m'.held = m.held → m'.fresh = m.fresh → m'.fresh = false →
      held = m'.held := by
    intro m' hheld' hfresh' hfresh
    exact (hheld (hfresh'.symm.trans hfresh)).trans hheld'.symm
  cases phase with
  | prompting prompt =>
    simp only [Conversation.step, prompted]
    split <;> exact ⟨hheld, trivial⟩
  | starting prompt =>
    refine ⟨rfl, ?_, fun kept r => ?_⟩
    · rintro hfresh turn ⟨⟩
      exact hheld hfresh
    · cases r <;> exact ⟨fun _ => rfl, trivial⟩
  | listening =>
    refine ⟨rfl, fun _ turn hturn => ?_,
      fun kept r => holds_hear (m := { m with kept }) hheld r⟩
    cases hturn
  | reacting work =>
    refine (Dialogue.step_apart hphase).inside ?_ ?_
    · rintro m' work' ⟨hheld', hfresh', hasks'⟩
      exact ⟨hknows m' hheld' hfresh', hasks'⟩
    · rintro (failure | question | _) <;> exact ⟨hheld, trivial⟩
  | closing verdict =>
    refine ⟨rfl, fun _ turn hturn => ?_,
      fun kept r => holds_leave (m := { m with kept }) hheld verdict r⟩
    cases hturn
  | asked question =>
    simp only [Conversation.step, questioned]
    split
    · exact ⟨hheld, trivial⟩
    · exact ⟨hheld, asks_answer setup question⟩
  | answering work =>
    refine (Dialogue.step_apart hphase).inside ?_ ?_
    · rintro m' work' ⟨hheld', hfresh', hasks'⟩
      exact ⟨hknows m' hheld' hfresh', hasks'⟩
    · exact fun prompt => ⟨hheld, trivial⟩
  | «over» outcome => trivial

end Conversation

/-- What a unit of work does besides its conversation asks nothing of the agent or the store. -/
theorem Work.isApart_ofOutside {α : Type} {d : Dialogue Outside.service α}
    (h : d.Asks Outside.Request.IsAside) : (Work.ofOutside d).Asks Work.Request.IsApart :=
  (Work.asks_ofOutside h).mono fun _ => Work.isApart_of_isAside

/-- A unit of work holds on to what its conversation knows at every step. -/
theorem Job.Holds.step {j : Job} (h : j.Holds m) : j.step.Holds Job.Holds m := by
  obtain ⟨settings, systemPrompt, work, files, phase⟩ := j
  have hcleanup := Work.isApart_ofOutside (Attachment.asks_cleanup files)
  cases phase with
  | fetching message download =>
    obtain ⟨hfresh, hasks⟩ := h
    refine (Dialogue.step_apart hasks).inside ?_ ?_
    · rintro m' work' ⟨-, hfresh', hasks'⟩
      exact ⟨hfresh'.trans hfresh, hasks'⟩
    · intro outcome
      cases outcome with
      | error failure => trivial
      | ok files => exact hfresh
  | recalling prompt =>
    intro r
    cases r with
    | error failure => exact hcleanup
    | ok session =>
      refine ⟨fun hfresh => ?_, trivial⟩
      rw [show m.fresh = true from h] at hfresh
      cases hfresh
  | talking c =>
    exact (Conversation.Holds.step h).inside (fun _ _ hc => hc) fun _ => hcleanup
  | tidying outcome cleaning =>
    refine (Dialogue.step_apart h).inside (fun _ _ hwork => hwork.2.2) fun outcome' => ?_
    cases outcome' <;> trivial
  | «over» outcome => trivial

/-- What a unit of work does next holds on to what its conversation knows. -/
theorem Job.Holds.of_step {j : Job} {step : Step Work.service Job (Except Failure Unit)}
    (h : j.Holds m) (hstep : j.step = step) : step.Holds Job.Holds m := hstep ▸ h.step

/-- A unit of work that is begun has started no turn. -/
theorem Job.holds_begin (settings : EngineSettings) (systemPrompt : Option String) (work : Work)
    (hfresh : m.fresh = true) : (Job.begin settings systemPrompt work).Holds m := by
  unfold Job.begin
  cases work.item with
  | message message =>
    exact ⟨hfresh, Work.isApart_ofOutside (Attachment.asks_download _ _)⟩
  | reaction reaction => exact hfresh

/-! ## What a desk holds of it -/

/-- A worker holds on to what the conversation of its unit of work knows, and an apology asks
nothing of the agent or the store. -/
def Worker.Phase.Holds (m : Memory) : Worker.Phase → Prop
  | .free => True
  | .busy job => job.Holds m
  | .apologising work => work.Asks Outside.Request.IsAside

/-- A desk holds on to what the conversation at it knows. A worker that waits for an answer will do
so whatever the answer is and whatever the channel keeps by then. -/
def Desk.Holds (m : Memory) (d : Desk) : Prop :=
  match d.worker with
  | none => True
  | some (_, phase, none) => phase.Holds m
  | some (_, _, some question) =>
    ∀ kept r, (question.next r).Holds ({ m with kept }.hear question.request r)

variable {config : Config} {systemPrompt : Option String} {c : String}

/-- What a channel keeps is of no matter to the conversation that goes on there. -/
theorem Desk.Holds.reset {d : Desk} (h : d.Holds m) (hrest : d.atRest = true) :
    ({ d with session := none } : Desk).Holds { m with kept := none } := by
  obtain ⟨queue, session, _ | ⟨i, phase, _ | question⟩⟩ := d
  · trivial
  · cases phase with
    | free => trivial
    | busy job => exact absurd hrest Bool.false_ne_true
    | apologising work => exact h
  · exact h

/-- Every step at a desk holds on to what the conversation there knows. -/
theorem Desk.Holds.next {d d' : Desk} {os : List Occurrence} (h : d.Holds m)
    (hn : Next config systemPrompt c d os d') : d'.Holds (m.run os) := by
  cases hn with
  | @queued _ _ worker =>
    obtain ⟨i, phase, _ | question⟩ := worker <;> exact h
  | called i admitted channel => trivial
  | reset e answer rest => exact h.reset rest
  | left => trivial
  | took => exact Job.holds_begin (m := { m with fresh := true }) _ _ _ rfl
  | silent step => exact Job.Holds.of_step h step
  | said step => exact Job.Holds.of_step h step
  | recalled step => exact Job.Holds.of_step h step _
  | known step => exact Job.Holds.of_step h step m.kept (.ok ())
  | reported step other => exact Job.Holds.of_step h step
  | asked step => exact (Job.Holds.of_step h step).2.2
  | @finished _ _ _ job outcome step =>
    cases outcome with
    | ok _ => trivial
    | error failure => exact Engine.apology_aside c job.work.profile failure
  | sighed => exact h
  | pleaded => exact fun _ r => h.2 r
  | settled => trivial
  | @heard _ _ _ _ question answer => exact h m.kept (answer question.request)

/-- A desk goes on to hold what the memory of a whole run holds. -/
theorem Desk.Holds.run {d d' : Desk} {os : List Occurrence} (h : d.Holds m)
    (hr : Run config systemPrompt c d os d') : d'.Holds (m.run os) := by
  induction hr with
  | nil => exact h
  | snoc _ next ih =>
    rw [Memory.run_append]
    exact ih.next next

/-- A further turn of a unit of work is started with the session that the memory holds. -/
theorem Desk.Holds.resumes {d d' : Desk} {i : Nat} {turn : Agent.Turn} (h : d.Holds m)
    (hfresh : m.fresh = false)
    (hn : Next config systemPrompt c d [.worked i c (.asked (.agent (.start turn)))] d') :
    turn.session = m.held := by
  cases hn with
  | asked step => exact (Job.Holds.of_step h step).2.1 hfresh turn rfl
  | pleaded => exact h.1.elim

/-! ## Without resets -/

namespace Memory

/-- What the last turn knows is the session of the channel, unless no turn was started yet. -/
def Agrees (m : Memory) : Prop :=
  m.held = m.kept.map Text.Wide.text ∨ m.held = none ∧ m.fresh = true

/-- An event that is heard leaves a memory that agrees, and the channel keeps what it reports. -/
theorem Agrees.told (h : m.Agrees) (e : Agent.Event) :
    (m.told e).Agrees ∧
      (m.told e).kept.map Text.Wide.text = e.reported?.or (m.kept.map Text.Wide.text) := by
  unfold Memory.told
  cases e.reported? with
  | none => exact ⟨h, rfl⟩
  | some session =>
    by_cases hknown : m.held = some session
    · simp only [hknown, if_true, Option.some_or]
      refine ⟨h, ?_⟩
      rcases h with hheld | ⟨hheld, -⟩
      · exact hheld.symm.trans hknown
      · rw [hknown] at hheld
        cases hheld
    · simp only [hknown, if_false, Option.some_or]
      have htext : (some (session : Text.Wide)).map Text.Wide.text = some session :=
        congrArg some (Text.Wide.text_ofString session)
      exact ⟨.inl htext.symm, htext⟩

/-- A memory that agrees goes on to agree, and the channel keeps what is reported, as long as it is
not reset and turns are started with the session of the channel. -/
theorem Agrees.after {o : Occurrence} (h : m.Agrees)
    (hreset : ∀ c events, o ≠ .reset c events)
    (hstart : ∀ turn, o.started? = some turn → turn.session = m.kept.map Text.Wide.text) :
    (m.after o).Agrees ∧
      (m.after o).kept.map Text.Wide.text = o.reported?.or (m.kept.map Text.Wide.text) := by
  cases o with
  | received item admitted notes => exact ⟨h, rfl⟩
  | reset c events => exact absurd rfl (hreset c events)
  | worked i c deed =>
    cases deed with
    | took work => exact ⟨h.imp_right fun hnone => ⟨hnone.1, rfl⟩, rfl⟩
    | said _ | ended _ | left => exact ⟨h, rfl⟩
    | asked q =>
      rcases q with _ | (turn | _ | _) | _ | _ | _ | _
      case agent.start => exact ⟨.inl (hstart turn rfl), rfl⟩
      all_goals exact ⟨h, rfl⟩
    | heard q reply =>
      rcases q with _ | (turn | _ | _) | _ | _ | _ | _
      case agent.next =>
        rcases reply with failure | _ | e
        · exact ⟨h, rfl⟩
        · exact ⟨h, rfl⟩
        · exact h.told e
      all_goals exact ⟨h, rfl⟩

/-- What the last occurrence reports is reported last. -/
theorem lastReported_append (os : List Occurrence) (o : Occurrence) :
    lastReported (os ++ [o]) = o.reported?.or (lastReported os) := by
  unfold lastReported
  cases ho : o.reported? with
  | none => rw [List.filterMap_append, List.filterMap_cons_none ho, List.filterMap_nil,
      List.append_nil, Option.none_or]
  | some session => rw [List.filterMap_append, List.filterMap_cons_some ho, List.filterMap_nil,
      List.getLast?_concat, Option.some_or]

end Memory

namespace Situation

variable {sessions : SessionTable}

/-- A turn is started with the session of the channel, if it is the first one of its unit of work,
and with the session that its conversation knows otherwise. -/
theorem turn_session {ms : List Move} {before after : List Occurrence} {i : Nat}
    {turn : Agent.Turn}
    (hrecord : ((start config systemPrompt sessions).run ms).recordOf c =
      before ++ .worked i c (.asked (.agent (.start turn))) :: after) :
    turn.session = if (memory sessions c before).fresh
      then (memory sessions c before).kept.map Text.Wide.text
      else (memory sessions c before).held := by
  obtain ⟨os, hos, hrun⟩ := desk_run (start_sound config systemPrompt sessions) ms c
  obtain ⟨d, d', hbefore, hnext, -⟩ := hrun.split (hos.symm.trans hrecord)
  have hkeeps : ((start config systemPrompt sessions).desk c).Keeps systemPrompt
      { kept := sessions.get? (c : String) } := rfl
  have hholds : ((start config systemPrompt sessions).desk c).Holds
      { kept := sessions.get? (c : String) } := trivial
  have hkept : d.Keeps systemPrompt (memory sessions c before) := hkeeps.run hbefore
  have hheld : d.Holds (memory sessions c before) := hholds.run hbefore
  cases hfresh : (memory sessions c before).fresh with
  | true => exact (hkept.begins hfresh hnext).session
  | false => exact hheld.resumes hfresh hnext

/-- A record of a channel in which a turn is started. -/
theorem eq_worked_of_started {s : Situation} {o : Occurrence} {turn : Agent.Turn}
    (hmem : o ∈ s.recordOf c) (hturn : o.started? = some turn) :
    ∃ i, o = .worked i c (.asked (.agent (.start turn))) := by
  unfold Occurrence.started? at hturn
  split at hturn
  · cases hturn
    have hconcerns := (List.mem_filter.mp hmem).2
    rw [Occurrence.concerns, beq_iff_eq] at hconcerns
    exact ⟨_, by rw [hconcerns]⟩
  · cases hturn

/-- Where the memory agrees, a turn is started with the session of the channel. -/
theorem turn_session_of_agrees {ms : List Move} {before after : List Occurrence} {o : Occurrence}
    {turn : Agent.Turn}
    (hrecord : ((start config systemPrompt sessions).run ms).recordOf c = before ++ o :: after)
    (hagrees : (memory sessions c before).Agrees) (hturn : o.started? = some turn) :
    turn.session = (memory sessions c before).kept.map Text.Wide.text := by
  have hmem : o ∈ ((start config systemPrompt sessions).run ms).recordOf c := by
    rw [hrecord]
    exact List.mem_append_right _ List.mem_cons_self
  obtain ⟨i, rfl⟩ := eq_worked_of_started hmem hturn
  rw [turn_session hrecord]
  split
  · rfl
  · rename_i hfresh
    rcases hagrees with hheld | ⟨-, hnone⟩
    · exact hheld
    · exact absurd hnone hfresh

/-- As long as a channel is not reset, it keeps the last session that is reported, and its turns
know that one. -/
theorem memory_agrees {ms : List Move} {before after : List Occurrence}
    (hrecord : ((start config systemPrompt sessions).run ms).recordOf c = before ++ after)
    (hresets : ¬Memory.Resets before) :
    (memory sessions c before).Agrees ∧ (memory sessions c before).kept.map Text.Wide.text =
      (Memory.lastReported before).or (sessions.session? c) := by
  induction before using List.reverseRecOn generalizing after with
  | nil => exact ⟨.inr ⟨rfl, rfl⟩, rfl⟩
  | append_singleton before o ih =>
    rw [List.append_assoc, List.singleton_append] at hrecord
    obtain ⟨hagrees, hkept⟩ := ih hrecord fun ⟨c', events, hmem⟩ =>
      hresets ⟨c', events, List.mem_append_left _ hmem⟩
    have hreset : ∀ c' events, o ≠ .reset c' events := by
      rintro c' events rfl
      exact hresets ⟨c', events, List.mem_append_right _ (List.mem_singleton_self _)⟩
    have hafter := hagrees.after hreset fun turn => turn_session_of_agrees hrecord hagrees
    have hmemory : memory sessions c (before ++ [o]) = (memory sessions c before).after o := by
      rw [memory, Memory.run_append]
      rfl
    rw [hmemory, Memory.lastReported_append, Option.or_assoc, ← hkept]
    exact hafter

/-- **Turns resume the last session.** As long as a channel is not reset, every turn there is
started with the last session that an event reported in it, or with the one that the channel had
at the start where none was reported. -/
theorem turn_resumes {ms : List Move} {before after : List Occurrence} {i : Nat}
    {turn : Agent.Turn}
    (hrecord : ((start config systemPrompt sessions).run ms).recordOf c =
      before ++ .worked i c (.asked (.agent (.start turn))) :: after)
    (hresets : ¬Memory.Resets before) :
    turn.session = (Memory.lastReported before).or (sessions.session? c) := by
  obtain ⟨hagrees, hkept⟩ := memory_agrees hrecord hresets
  rw [← hkept]
  exact turn_session_of_agrees hrecord hagrees rfl

end Situation

end ChatRelay
