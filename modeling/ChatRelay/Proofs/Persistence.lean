import ChatRelay.Proofs.Desk.Keeping
import ChatRelay.Proofs.Obstacles

/-!
# Sessions that cannot be saved

The engine tells the store about every session that an agent reports. What the disk refuses is
logged by the store and goes no further, but an obstacle is passed on
(`SessionStore.keepsFailures_iff`), and the reply that the store gives is the reply to the report. A
conversation that gets a failure for it is over: `Conversation.Doomed` and `Job.Doomed` are what can
only end with a failure, and `Desk.Minds` says that a unit of work whose report fails comes to that.

The main statement is `Situation.failures_to_save`: exactly which paths and files the store keeps
its failures to itself for, and what becomes of a unit of work.
-/

namespace ChatRelay

/-! ## What can only fail -/

/-- A dialogue goes on to the results that it has. -/
theorem Dialogue.Yields.step {P : Service} {α : Type} {p : α → Prop} {d : Dialogue P α}
    (h : d.Yields p) : d.step.LeadsUnder (fun _ _ => True) (Dialogue.Yields p) p := by
  cases d with
  | done a => exact h
  | say line rest => exact h
  | ask q rest => exact fun r _ => h r

namespace Conversation

/-- A conversation that can only end with a failure. -/
def Doomed (c : Conversation) : Prop :=
  match c.phase with
  | .reacting work => work.Yields fun verdict => verdict.isOk = false
  | .closing verdict => verdict.isOk = false
  | .over outcome => outcome.isOk = false
  | _ => False

/-- A conversation that can only fail goes on to be one, or fails. -/
theorem Doomed.step {c : Conversation} (h : c.Doomed) :
    c.step.LeadsUnder (fun _ _ => True) Doomed fun outcome => outcome.isOk = false := by
  obtain ⟨setup, session, turnCount, depth, rounds, phase⟩ := c
  cases phase with
  | reacting work =>
    refine (Dialogue.Yields.step h).inside (fun _ hwork => hwork) fun verdict hverdict => ?_
    cases verdict with
    | error e => rfl
    | ok question => cases hverdict
  | closing verdict =>
    intro reply _
    cases verdict with
    | error e => cases reply <;> rfl
    | ok question => cases h
  | «over» outcome => exact h
  | prompting _ | starting _ | listening | asked _ | answering _ => exact h.elim

end Conversation

namespace Job

/-- A unit of work that can only end with a failure. -/
def Doomed (j : Job) : Prop :=
  match j.phase with
  | .talking c => c.Doomed
  | .tidying outcome _ => outcome.isOk = false
  | .over outcome => outcome.isOk = false
  | _ => False

/-- A unit of work that can only fail goes on to be one, or fails. -/
theorem Doomed.step {j : Job} (h : j.Doomed) :
    j.step.LeadsUnder (fun _ _ => True) Doomed fun outcome => outcome.isOk = false := by
  obtain ⟨settings, systemPrompt, work, files, phase⟩ := j
  cases phase with
  | talking c => exact (Conversation.Doomed.step h).inside (fun _ hc => hc) fun _ hr => hr
  | tidying outcome cleaning =>
    refine cleaning.yields_true.step.inside (fun _ _ => h) fun reply _ => ?_
    cases reply with
    | error e => rfl
    | ok _ => exact h
  | «over» outcome => exact h
  | fetching _ _ | recalling _ => exact h.elim

/-- What a unit of work that can only fail does next leads to nothing but a failure. -/
theorem Doomed.of_step {j : Job} {step : Step Work.service Job (Except Failure Unit)}
    (h : j.Doomed) (hstep : j.step = step) :
    step.LeadsUnder (fun _ _ => True) Doomed fun outcome => outcome.isOk = false := hstep ▸ h.step

end Job

/-! ## What a report that fails leads to -/

/-- A request that is not for the store. -/
def Work.Request.SparesStore : Work.Request → Prop
  | .outside (.store _) => False
  | _ => True

/-- What is asked on the side is not for the store. -/
theorem Work.Request.IsAside.sparesStore {q : Work.Request} (h : q.IsAside) : q.SparesStore := by
  match q with
  | .outside (.chat _) | .outside (.disk _) | .outside (.web _) | .outside .freshName => trivial

/-- A step that leaves the store to the engine, and for which a report that fails is the end. -/
structure Step.Minds {σ ρ : Type} (keeps doomed : σ → Prop) (step : Step Work.service σ ρ) :
    Prop where
  stays : step.Stays Work.Request.SparesStore keeps
  failed : ∀ id next, step = .ask (.report id) next → ∀ e, doomed (next (.error e))

/-- A machine inside another one minds what the other one has to mind. -/
theorem Step.Minds.inside {σ τ ρ υ : Type} {keeps doomed : σ → Prop} {keeps' doomed' : τ → Prop}
    {wrap : σ → τ} {after : ρ → τ} {step : Step Work.service σ ρ} (h : step.Minds keeps doomed)
    (hkeeps : ∀ s, keeps s → keeps' (wrap s)) (hdoomed : ∀ s, doomed s → doomed' (wrap s))
    (hafter : ∀ r, keeps' (after r)) :
    (step.inside wrap after : Step Work.service τ υ).Minds keeps' doomed' := by
  refine ⟨h.stays.inside hkeeps hafter, fun id next hnext e => ?_⟩
  obtain ⟨next', hask, rfl⟩ := Step.ask_of_inside hnext
  exact hdoomed _ (h.failed id next' hask e)

/-- What is done on the side reports nothing. -/
theorem Dialogue.minds_of_aside {α : Type} {work : Dialogue Work.service α} {doomed}
    (h : work.Asks Work.Request.IsAside) :
    work.step.Minds (fun rest => rest.Asks Work.Request.IsAside) doomed := by
  refine ⟨?_, fun id next hnext => ?_⟩
  · cases work with
    | done a => trivial
    | say line rest => exact h
    | ask q rest => exact ⟨h.1.sparesStore, h.2⟩
  · cases work with
    | done a | say line rest => cases hnext
    | ask q rest =>
      cases hnext
      exact h.1.elim

namespace Conversation

/-- The work on an event of a turn: it may report a session, which is the end of it when that fails,
and the rest is done on the side. -/
inductive Reports : Dialogue Work.service Verdict → Prop where
  | aside {work} (asks : work.Asks Work.Request.IsAside) : Reports work
  | said {line work} (rest : Reports work) : Reports (.say line work)
  | reported {id : String} {next}
      (failed : ∀ e, (next (.error e)).Yields fun verdict => verdict.isOk = false)
      (asks : ∀ r, (next r).Asks Work.Request.IsAside) : Reports (.ask (.report id) next)

/-- The work on an event minds what it reports at every step. -/
theorem Reports.step {work : Dialogue Work.service Verdict} (h : Reports work) :
    work.step.Minds Reports (Dialogue.Yields fun verdict => verdict.isOk = false) := by
  cases h with
  | aside asks =>
    have haside : work.step.Minds (fun rest => rest.Asks Work.Request.IsAside)
        (Dialogue.Yields fun verdict => verdict.isOk = false) := Dialogue.minds_of_aside asks
    refine ⟨?_, haside.failed⟩
    cases work with
    | done a => trivial
    | say line rest => exact .aside haside.stays
    | ask q rest => exact ⟨haside.stays.1, fun r => .aside (haside.stays.2 r)⟩
  | said rest => exact ⟨rest, nofun⟩
  | reported failed asks =>
    refine ⟨⟨trivial, fun r => .aside (asks r)⟩, ?_⟩
    rintro id next ⟨⟩
    exact failed

/-- An event is worked on in that way. -/
theorem reports_react (place : Place) (known : Option String) (e : Agent.Event) :
    Reports (react place known e) := by
  change Reports ((reportSession known e).bind _)
  unfold reportSession
  split
  · exact .aside (asks_heed place e)
  · split
    · exact .aside (asks_heed place e)
    · refine .said (.reported (fun failure => rfl) fun r => ?_)
      cases r with
      | error failure => trivial
      | ok _ => exact asks_heed place e

/-- A conversation that leaves the store to the engine, and for which a report that fails is the
end. -/
def Minds (c : Conversation) : Prop :=
  match c.phase with
  | .reacting work => Reports work
  | .answering work => work.Asks Work.Request.IsAside
  | _ => True

/-- A conversation goes on to mind what it reports. -/
theorem Minds.step {c : Conversation} (h : c.Minds) : c.step.Minds Minds Doomed := by
  obtain ⟨setup, session, turnCount, depth, rounds, phase⟩ := c
  cases phase with
  | prompting prompt =>
    simp only [Conversation.step, prompted]
    split <;> exact ⟨trivial, by rintro _ _ ⟨⟩⟩
  | starting prompt =>
    refine ⟨⟨trivial, fun r => ?_⟩, by rintro _ _ ⟨⟩⟩
    cases r <;> trivial
  | listening =>
    refine ⟨⟨trivial, fun r => ?_⟩, by rintro _ _ ⟨⟩⟩
    rcases r with _ | _ | e
    · trivial
    · trivial
    · exact reports_react setup.place session e
  | reacting work =>
    refine (Reports.step h).inside (fun _ hwork => hwork) (fun _ hwork => hwork) fun verdict => ?_
    rcases verdict with _ | _ | question <;> trivial
  | closing verdict =>
    refine ⟨⟨trivial, fun r => ?_⟩, by rintro _ _ ⟨⟩⟩
    rcases r with _ | _
    · trivial
    · rcases verdict with _ | _ | question <;> trivial
  | asked question =>
    simp only [Conversation.step, questioned]
    split
    · exact ⟨trivial, by rintro _ _ ⟨⟩⟩
    · exact ⟨Work.asks_ofChat _, by rintro _ _ ⟨⟩⟩
  | answering work =>
    exact (Dialogue.minds_of_aside h).inside (fun _ hwork => hwork) (fun _ => False.elim)
      fun _ => trivial
  | «over» outcome => exact ⟨trivial, by rintro _ _ ⟨⟩⟩

end Conversation

namespace Job

/-- A unit of work that leaves the store to the engine, and for which a report that fails is the
end. -/
def Minds (j : Job) : Prop :=
  match j.phase with
  | .fetching _ work => work.Asks Work.Request.IsAside
  | .talking c => c.Minds
  | .tidying _ work => work.Asks Work.Request.IsAside
  | .recalling _ | .over _ => True

/-- A unit of work goes on to mind what it reports. -/
theorem Minds.step {j : Job} (h : j.Minds) : j.step.Minds Minds Doomed := by
  obtain ⟨settings, systemPrompt, work, files, phase⟩ := j
  have hcleanup : ∀ paths,
      (Work.ofOutside (Attachment.cleanup paths)).Asks Work.Request.IsAside :=
    fun paths => Work.asks_ofOutside (Attachment.asks_cleanup paths)
  cases phase with
  | fetching m download =>
    refine (Dialogue.minds_of_aside h).inside (fun _ hwork => hwork) (fun _ => False.elim)
      fun outcome => ?_
    cases outcome <;> trivial
  | recalling prompt =>
    refine ⟨⟨trivial, fun r => ?_⟩, by rintro _ _ ⟨⟩⟩
    cases r with
    | error e => exact hcleanup files
    | ok session => trivial
  | talking c =>
    exact (Conversation.Minds.step h).inside (fun _ hc => hc) (fun _ hc => hc) fun _ =>
      hcleanup files
  | tidying outcome cleaning =>
    refine (Dialogue.minds_of_aside h).inside (fun _ hwork => hwork) (fun _ => False.elim)
      fun outcome' => ?_
    cases outcome' <;> trivial
  | «over» outcome => exact ⟨trivial, by rintro _ _ ⟨⟩⟩

/-- A unit of work that begins minds what it reports. -/
theorem minds_begin (settings : EngineSettings) (systemPrompt : Option String) (work : Work) :
    (Job.begin settings systemPrompt work).Minds := by
  unfold Job.begin
  cases work.item with
  | message m => exact Work.asks_ofOutside (Attachment.asks_download _ _)
  | reaction r => trivial

end Job

/-! ## Workers -/

/-- A worker whose unit of work can only fail. -/
def Worker.Phase.Doomed : Worker.Phase → Prop
  | .busy job => job.Doomed
  | _ => False

/-- Whether a unit of work that ends has failed. -/
def Occurrence.ended? : Occurrence → Option Bool
  | .worked _ _ (.ended failed) => some failed
  | _ => none

namespace Desk

variable {config : Config} {systemPrompt : Option String} {c : String} {d d' : Desk}
  {os : List Occurrence}

/-- The unit of work at a desk can only fail. -/
def Doomed (d : Desk) : Prop :=
  match d.worker with
  | none => False
  | some (_, phase, none) => phase.Doomed
  | some (_, _, some question) => ∀ reply, (question.next reply).Doomed

/-- At a desk the unit of work that is going on can only fail until it ends, and it ends with a
failure. -/
theorem Doomed.next (h : d.Doomed) (hn : Next config systemPrompt c d os d') :
    os.findSome? Occurrence.ended? = none ∧ d'.Doomed ∨
      os.findSome? Occurrence.ended? = some true := by
  cases hn with
  | @queued _ _ worker =>
    obtain ⟨i, phase, _ | question⟩ := worker <;> exact .inl ⟨rfl, h⟩
  | called i admitted channel => exact h.elim
  | reset e answer rest => exact .inl ⟨rfl, h⟩
  | left => exact h.elim
  | took => exact h.elim
  | silent step => exact .inl ⟨rfl, Job.Doomed.of_step h step⟩
  | said step => exact .inl ⟨rfl, Job.Doomed.of_step h step⟩
  | recalled step => exact .inl ⟨rfl, Job.Doomed.of_step h step _ trivial⟩
  | known step => exact .inl ⟨rfl, Job.Doomed.of_step h step _ trivial⟩
  | reported step other => exact .inl ⟨rfl, fun reply => Job.Doomed.of_step h step reply trivial⟩
  | asked step => exact .inl ⟨rfl, fun reply => Job.Doomed.of_step h step reply trivial⟩
  | @finished _ _ _ job outcome step =>
    have hfailed : outcome.isOk = false := Job.Doomed.of_step h step
    refine .inr ?_
    simp only [List.findSome?_cons, Occurrence.ended?, hfailed, Bool.not_false]
  | sighed => exact h.elim
  | pleaded => exact h.elim
  | settled => exact h.elim
  | heard answer => exact .inl ⟨rfl, h _⟩

/-- The unit of work that is going on does not end without a failure. -/
theorem Doomed.run (h : d.Doomed) (hr : Run config systemPrompt c d os d') :
    os.findSome? Occurrence.ended? = none ∧ d'.Doomed ∨
      os.findSome? Occurrence.ended? = some true := by
  induction hr with
  | nil => exact .inl ⟨rfl, h⟩
  | snoc _ next ih =>
    rw [List.findSome?_append]
    rcases ih with ⟨hnone, hdoomed⟩ | hfailed
    · rw [hnone, Option.none_or]
      exact hdoomed.next next
    · rw [hfailed, Option.some_or]
      exact .inr rfl

/-- A desk at which a unit of work leaves the store to the engine, and is doomed when the store
answers that it has failed. -/
structure Minds (d : Desk) : Prop where
  stays : d.Stays Job.Minds
  failed : ∀ i phase question, d.worker = some (i, phase, some question) →
    ∀ change, question.request = .store change → ∀ reply, reply.isOk = false →
      (question.next reply).Doomed

/-- Whatever happens at such a desk, it stays one. -/
theorem Minds.next (h : d.Minds) (hn : Next config systemPrompt c d os d') : d'.Minds := by
  have hstays : d'.Stays Job.Minds :=
    h.stays.next (Job.minds_begin config.engine systemPrompt)
      (fun _ hj => (Job.Minds.step hj).stays) hn
  refine ⟨hstays, ?_⟩
  cases hn with
  | queued admitted channel => exact h.failed
  | reset e answer rest => exact h.failed
  | reported step other =>
    rintro _ _ _ ⟨⟩ change - reply hreply
    have hjob := (Job.Minds.step h.stays).failed _ _ step
    match reply with
    | .error e => exact hjob e
    | .ok _ => cases hreply
  | asked step =>
    rintro _ _ _ ⟨⟩ change rfl
    have hjob := (Job.Minds.step h.stays).stays
    rw [step] at hjob
    exact hjob.1.elim
  | pleaded =>
    rintro _ _ _ ⟨⟩ change rfl
    exact h.stays.1.elim
  | called _ _ _ | left | took | silent _ | said _ | recalled _ | known _ | finished _ | sighed
    | settled | heard _ => rintro _ _ _ ⟨⟩

/-- Such a desk stays one in a whole run. -/
theorem Minds.run (h : d.Minds) (hr : Run config systemPrompt c d os d') : d'.Minds := by
  induction hr with
  | nil => exact h
  | snoc _ next ih => exact ih.next next

/-- When the store answers that it has failed, the unit of work can only fail. -/
theorem Minds.doomed (h : d.Minds) {i : Nat} {change : SessionChange} {e : Failure}
    (hn : Next config systemPrompt c d [.worked i c (.heard (.store change) (.error e))] d') :
    d'.Doomed := by
  generalize hos : [Occurrence.worked i c (.heard (.store change) (.error e))] = os at hn
  cases hn with
  | @heard _ _ _ _ question answer =>
    obtain ⟨request, next⟩ := question
    have hheard := (Occurrence.worked.inj (List.cons.inj hos).1).2.2
    obtain ⟨hrequest, hreply⟩ := Deed.heard.inj hheard
    subst hrequest
    have hfailed : (answer (.store change)).isOk = false := by
      rw [← eq_of_heq hreply]
      rfl
    exact h.failed _ _ _ rfl change rfl _ hfailed
  | _ => cases hos

end Desk

namespace Situation

variable {config : Config} {systemPrompt : Option String} {sessions : SessionTable}

/-- A unit of work to whose report the store answers that it has failed does not end without a
failure. -/
theorem ended_of_failed_report {ms : List Move} {c : String} {before after : List Occurrence}
    {i : Nat} {change : SessionChange} {e : Failure} {failed : Bool}
    (hrecord : ((start config systemPrompt sessions).run ms).recordOf c =
      before ++ .worked i c (.heard (.store change) (.error e)) :: after)
    (hended : after.findSome? Occurrence.ended? = some failed) : failed = true := by
  obtain ⟨os, hos, hrun⟩ := desk_run (start_sound config systemPrompt sessions) ms c
  obtain ⟨d, d', hbefore, hnext, hafter⟩ := hrun.split (hos.symm.trans hrecord)
  have hstart : ((start config systemPrompt sessions).desk c).Minds := by
    refine ⟨trivial, fun i phase question hworker => ?_⟩
    have hnone : ((start config systemPrompt sessions).desk c).worker = none := rfl
    rw [hnone] at hworker
    cases hworker
  rcases (((hstart.run hbefore).doomed hnext).run hafter) with ⟨hnone, -⟩ | htrue
  · rw [hnone] at hended
    cases hended
  · rw [htrue] at hended
    exact (Option.some.inj hended).symm

end Situation

/-! ## Runs of an engine with a store -/

/-- What is heard of the store is what a store answers, and what is heard of everybody else but the
chat platform is no failure. -/
def Occurrence.IsStoredBy (store : SessionStore) : Occurrence → Prop
  | .worked _ _ (.heard (.store change) reply) => store.Answers change reply
  | o => o.IsUnfailing

/-- A store that keeps its failures to itself never answers that it has failed. -/
theorem Occurrence.IsStoredBy.unfailing {store : SessionStore} {o : Occurrence}
    (h : o.IsStoredBy store) (hstore : store.KeepsFailures) : o.IsUnfailing := by
  match o with
  | .worked _ _ (.heard (.store change) reply) => exact ⟨(), hstore change reply h⟩
  | .worked _ _ (.heard (.chat _) _) | .worked _ _ (.heard (.agent _) _)
  | .worked _ _ (.heard (.disk _) _) | .worked _ _ (.heard (.web _) _)
  | .worked _ _ (.heard .freshName _) => exact h
  | .received _ _ _ | .reset _ _ | .worked _ _ (.took _) | .worked _ _ (.said _)
  | .worked _ _ (.asked _) | .worked _ _ (.ended _) | .worked _ _ .left => trivial

namespace Situation

/-- **What becomes of sessions that cannot be saved.** For a store on any path, with any sessions
read from its file, and for every run of an engine with these sessions:

* every change is made in memory, whatever becomes of saving it, and so the store always has the
  sessions of the engine;
* on a lawful disk saving a change ends in one of the ways `SessionStore.Ends`: what the disk
  refuses is logged and not passed on;
* all failures are kept to the store just where the path has a last name and no NUL, and the
  sessions of the file are texts of characters;
* a unit of work fails whose report the store does not keep its failure from;
* with a store that keeps its failures to itself, no unit of work fails, and no worker apologises,
  as long as nobody else fails but the chat platform. -/
theorem failures_to_save (text : String) (sessions : SessionTable) (config : Config)
    (systemPrompt : Option String) (ms : List Move) :
    let store : SessionStore := ⟨Path.ofText text, sessions⟩
    let s := (start config systemPrompt sessions).run ms
    (∀ change key, (store.change change).1.sessions.get? key =
      if key = change.channel then change.session? else sessions.get? key) ∧
    (s.changes.foldl SessionStore.remember store).sessions = s.engine.sessions ∧
    (∀ change os reply, (store.change change).2.Plays os reply → Disk.Lawful os →
      if store.isSaved change then (store.remember change).Ends os reply
      else os = [] ∧ reply = .ok ()) ∧
    (store.KeepsFailures ↔
      (∃ part ∈ Path.splitSlashes text.toList, part ≠ [] ∧ part ≠ ['.']) ∧
      '\x00' ∉ text.toList ∧
      ∀ e ∈ sessions.entries, ∀ code, .lone code ∉ e.1 ∧ .lone code ∉ e.2) ∧
    (∀ c before i change e after failed,
      s.recordOf c = before ++ .worked i c (.heard (.store change) (.error e)) :: after →
        after.findSome? Occurrence.ended? = some failed → failed = true) ∧
    (store.KeepsFailures → (∀ o ∈ s.record, o.IsStoredBy store) →
      (∀ o ∈ s.record, o.isFailure = false) ∧
        ∀ w ∈ s.engine.workers, ∀ apology, w.2.phase ≠ .apologising apology) := by
  intro store s
  refine ⟨store.get?_change, remembered_run config systemPrompt store ms,
    fun change os reply hplays hos => SessionStore.ends_of_change hplays hos,
    SessionStore.keepsFailures_iff.trans SessionStore.obstacle?_eq_none_iff,
    fun c before i change e after failed => ended_of_failed_report, fun hstore hstored => ?_⟩
  have hunfailing : ∀ o ∈ s.record, o.IsUnfailing := fun o ho => (hstored o ho).unfailing hstore
  exact calm_of_unfailing hunfailing

/-- A store without sessions. -/
def storeAt (text : String) : SessionStore := ⟨Path.ofText text, .empty⟩

/-- An agent without events, and a store with one reply to every change. -/
def keeping (reply : Except Failure Unit) : Outside.Answer
  | .store _ => reply
  | q => reporting none q

/-- A relay with one channel. -/
def oneChannel : Config :=
  { token := "", operator := "42", model := "", channels := [{ name := "general" }] }

/-- An agent reports a session, and the store is told. -/
def tellingMoves : List Move :=
  let item : Incoming := .reaction
    { emoji := "x", messageId := "1", channelId := "100", channelName := "general", userId := "42" }
  let late := reporting (some { kind := .session, session := some "late" })
  [.receive item, .work 1, .work 1, .work 1, .work 1, .reply 1 (reporting none), .work 1,
    .reply 1 late, .work 1, .work 1]

/-- The store has a reply to it, and the agent says nothing more. -/
def savingMoves (reply : Except Failure Unit) : List Move :=
  let other := keeping reply
  [.reply 1 other, .work 1, .work 1, .reply 1 other, .work 1, .reply 1 other, .work 1, .work 1,
    .work 1]

/-- What stands when the store is told. -/
def tellingRun : Situation := (start oneChannel none .empty).run tellingMoves

/-- What stands when it has replied and all is over. -/
def savingRun (reply : Except Failure Unit) : Situation :=
  (start oneChannel none .empty).run (tellingMoves ++ savingMoves reply)

/-- Until the store has replied nobody has failed. -/
theorem tellingRun_record (store : SessionStore) : ∀ o ∈ tellingRun.record, o.IsStoredBy store := by
  have hrecord : tellingRun.record = [.received _ true _, .worked 1 "100" (.took _),
      .worked 1 "100" (.said _), .worked 1 "100" (.asked (.agent (.start _))),
      .worked 1 "100" (.heard (.agent (.start _)) (.ok ())),
      .worked 1 "100" (.asked (.agent .next)),
      .worked 1 "100" (.heard (.agent .next) (.ok (some _))), .worked 1 "100" (.said _),
      .worked 1 "100" (.asked (.store _))] := rfl
  have hreadable : Agent.Event.IsReadable { kind := .session, session := some "late" } := nofun
  rw [hrecord]
  simp only [List.forall_mem_cons, Occurrence.IsStoredBy, Occurrence.IsUnfailing,
    Outside.unfailing, true_and]
  refine ⟨⟨(), rfl⟩, ⟨some _, rfl, ?_⟩, List.forall_mem_nil _⟩
  rintro _ ⟨⟩
  exact hreadable

/-- What happens once the session is saved. -/
def saved : List Occurrence :=
  [.worked 1 "100" (.asked (.agent .next)), .worked 1 "100" (.heard (.agent .next) (.ok none)),
    .worked 1 "100" (.asked (.agent .close)), .worked 1 "100" (.heard (.agent .close) (.ok ())),
    .worked 1 "100" (.ended false)]

/-- What happens when the path of the store has no name. -/
def unsaved : List Occurrence :=
  let failure : Failure := .namelessPath "."
  [.worked 1 "100" (.asked (.agent .close)), .worked 1 "100" (.heard (.agent .close) (.ok ())),
    .worked 1 "100" (.ended true),
    .worked 1 "100" (.said s!"[Engine:general] Processing error: {failure.describe}")]

/-- Once the session is saved, the turn goes on and the unit of work ends well. -/
theorem savingRun_saved : (savingRun (.ok ())).record = tellingRun.record ++
    .worked 1 "100" (.heard (.store (.set "100" "late")) (.ok ())) :: saved := by rfl

/-- Where the store fails, the turn is closed and the unit of work fails. -/
theorem savingRun_unsaved : (savingRun (.error (.namelessPath "."))).record =
    tellingRun.record ++ .worked 1 "100"
      (.heard (.store (.set "100" "late")) (.error (.namelessPath "."))) :: unsaved := by rfl

/-- All of it happens in one channel. -/
theorem recordOf_unsaved : (savingRun (.error (.namelessPath "."))).recordOf "100" =
    (savingRun (.error (.namelessPath "."))).record := by rfl

/-- In such a run nobody fails but the store. -/
theorem savingRun_stored {store : SessionStore} {reply : Except Failure Unit}
    (hcases : reply = .ok () ∨ reply = .error (.namelessPath "."))
    (hreply : store.Answers (.set "100" "late") reply) :
    ∀ o ∈ (savingRun reply).record, o.IsStoredBy store := by
  obtain ⟨after, hrecord, hafter⟩ : ∃ after, (savingRun reply).record =
      tellingRun.record ++ .worked 1 "100" (.heard (.store (.set "100" "late")) reply) :: after ∧
      ∀ o ∈ after, o.IsStoredBy store := by
    rcases hcases with rfl | rfl
    · refine ⟨saved, savingRun_saved, ?_⟩
      simp only [saved, List.forall_mem_cons, Occurrence.IsStoredBy, Occurrence.IsUnfailing,
        Outside.unfailing, true_and]
      exact ⟨⟨none, rfl, by rintro _ ⟨⟩⟩, ⟨(), rfl⟩, List.forall_mem_nil _⟩
    · refine ⟨unsaved, savingRun_unsaved, ?_⟩
      simp only [unsaved, List.forall_mem_cons, Occurrence.IsStoredBy, Occurrence.IsUnfailing,
        Outside.unfailing, true_and]
      exact ⟨⟨(), rfl⟩, List.forall_mem_nil _⟩
  rw [hrecord]
  exact List.forall_mem_append.mpr
    ⟨tellingRun_record store, List.forall_mem_cons.mpr ⟨hreply, hafter⟩⟩

/-- Where the path has no name, a session that is set is not saved. -/
theorem plays_at_dot : ∃ os, Disk.Lawful os ∧
    ((storeAt ".").change (.set "100" "late")).2.Plays os (.error (.namelessPath ".")) := by
  have hobstacle : ((storeAt ".").remember (.set "100" "late")).obstacle? =
      some (.namelessPath ".") := by rfl
  exact SessionStore.plays_of_obstacle hobstacle

/-- The store says so. -/
theorem answers_at_dot :
    (storeAt ".").Answers (.set "100" "late") (.error (.namelessPath ".")) := by
  obtain ⟨os, hos, hplays⟩ := plays_at_dot
  exact ⟨[], os, hos, hplays⟩

/-- Not every store keeps its failures to itself: where the path has no name, the unit of work fails
whose agent reports a session, and nobody else has failed. -/
theorem not_kept_at_dot : ¬((storeAt ".").KeepsFailures ∨
    ((∀ o ∈ (savingRun (.error (.namelessPath "."))).record, o.IsStoredBy (storeAt ".")) →
      ∀ o ∈ (savingRun (.error (.namelessPath "."))).record, o.isFailure = false)) := by
  rintro (hkeeps | hcontained)
  · cases hkeeps _ _ answers_at_dot
  · have hended : Occurrence.worked 1 "100" (.ended true) ∈
        (savingRun (.error (.namelessPath "."))).record := by
      rw [savingRun_unsaved]
      exact List.mem_append_right _ (by simp [unsaved])
    have hfailed := hcontained (savingRun_stored (.inr rfl) answers_at_dot) _ hended
    cases hfailed

/-- Of these two runs of an engine, the one with a store on a nameless path has a unit of work that
fails, and the one with a store on a file has none. -/
theorem failures_to_save_at_dot :
    (¬(storeAt ".").KeepsFailures ∧
      (∃ os, Disk.Lawful os ∧ ((storeAt ".").remember (.set "100" "late")).Ends os
        (.error (.namelessPath "."))) ∧
      ∃ before after failed, (savingRun (.error (.namelessPath "."))).recordOf "100" = before ++
          .worked 1 "100" (.heard (.store (.set "100" "late")) (.error (.namelessPath "."))) ::
            after ∧
        after.findSome? Occurrence.ended? = some failed ∧ failed = true) ∧
    (storeAt "sessions.json").KeepsFailures ∧
      (∀ o ∈ (savingRun (.ok ())).record, o.IsStoredBy (storeAt "sessions.json")) ∧
      (∀ o ∈ (savingRun (.ok ())).record, o.isFailure = false) ∧
      ∀ w ∈ (savingRun (.ok ())).engine.workers, ∀ apology, w.2.phase ≠ .apologising apology := by
  constructor
  · obtain ⟨-, -, hends, hkeeps, hended, -⟩ := failures_to_save "." .empty oneChannel none
      (tellingMoves ++ savingMoves (.error (.namelessPath ".")))
    obtain ⟨os, hos, hplays⟩ := plays_at_dot
    have hsplit := recordOf_unsaved.trans savingRun_unsaved
    refine ⟨fun hkept => ?_, ⟨os, hos, hends _ _ _ hplays hos⟩, tellingRun.record, unsaved, true,
      hsplit, rfl, hended _ _ _ _ _ _ _ hsplit rfl⟩
    obtain ⟨⟨part, hpart, -, hdot⟩, -⟩ := hkeeps.mp hkept
    have hparts : Path.splitSlashes ".".toList = [['.']] := by decide
    rw [hparts, List.mem_singleton] at hpart
    exact hdot hpart
  · obtain ⟨-, -, -, hkeeps, -, hcontained⟩ := failures_to_save "sessions.json" .empty oneChannel
      none (tellingMoves ++ savingMoves (.ok ()))
    have hkept : (storeAt "sessions.json").KeepsFailures := by
      have hname : "sessions.json".toList ∈ Path.splitSlashes "sessions.json".toList := by decide
      have hnul : '\x00' ∉ "sessions.json".toList := by decide
      exact hkeeps.mpr ⟨⟨_, hname, by decide, by decide⟩, hnul, nofun⟩
    obtain ⟨reply, hanswers⟩ := (storeAt "sessions.json").exists_answers (.set "100" "late")
    have hreply := hkept _ _ hanswers
    subst hreply
    have hstored := savingRun_stored (.inl rfl) hanswers
    exact ⟨hkept, hstored, hcontained hkept hstored⟩

end Situation

end ChatRelay
