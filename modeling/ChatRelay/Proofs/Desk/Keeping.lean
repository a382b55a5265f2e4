import ChatRelay.Proofs.Memory
import ChatRelay.Proofs.Way

/-!
# What every unit of work keeps

A unit of work is begun with the settings and the system prompt of the engine. What holds of it
then, and is kept by each of its steps, holds of every unit of work in every run of the engine, and
so does what its steps may ask of the agent (`Situation.asked_of_stays`).
-/

namespace ChatRelay

variable {config : Config} {systemPrompt : Option String} {c : String} {keeps : Job → Prop}
  {p : Work.Request → Prop}

/-- The unit of work of a worker has a property, and an apology asks nothing of the agent. -/
def Worker.Phase.Stays (keeps : Job → Prop) : Worker.Phase → Prop
  | .free => True
  | .busy job => keeps job
  | .apologising work => work.Asks Outside.Request.IsAside

/-- What a unit of work with the property does next keeps the property. -/
theorem Job.stays_of_step (hstep : ∀ j, keeps j → j.step.Stays p keeps) {j : Job}
    {step : Step Work.service Job (Except Failure Unit)} (hj : keeps j) (h : j.step = step) :
    step.Stays p keeps := h ▸ hstep j hj

namespace Desk

/-- The unit of work at a desk has a property. While it waits for an answer it will have it whatever
the answer is. -/
def Stays (keeps : Job → Prop) (d : Desk) : Prop :=
  match d.worker with
  | none => True
  | some (_, phase, none) => phase.Stays keeps
  | some (_, _, some question) => ∀ r, (question.next r).Stays keeps

/-- What units of work have from the start and keep is kept by every step at a desk. -/
theorem Stays.next {d d' : Desk} {os : List Occurrence}
    (hbegin : ∀ work, keeps (.begin config.engine systemPrompt work))
    (hstep : ∀ j, keeps j → j.step.Stays p keeps) (h : d.Stays keeps)
    (hn : Next config systemPrompt c d os d') : d'.Stays keeps := by
  cases hn with
  | @queued _ _ worker =>
    obtain ⟨i, phase, _ | question⟩ := worker <;> exact h
  | called i admitted channel => trivial
  | reset e answer rest => exact h
  | left => trivial
  | took => exact hbegin _
  | silent step => exact Job.stays_of_step hstep h step
  | said step => exact Job.stays_of_step hstep h step
  | recalled step => exact (Job.stays_of_step hstep h step).2 _
  | known step => exact (Job.stays_of_step hstep h step).2 _
  | reported step other => exact (Job.stays_of_step hstep h step).2
  | asked step => exact (Job.stays_of_step hstep h step).2
  | @finished _ _ _ job outcome step =>
    cases outcome with
    | ok _ => trivial
    | error failure => exact Engine.apology_aside c job.work.profile failure
  | sighed => exact h
  | pleaded => exact h.2
  | settled => trivial
  | @heard _ _ _ _ question answer => exact h (answer question.request)

/-- What a desk keeps to at every step it keeps to in a whole run. -/
theorem Stays.run {d d' : Desk} {os : List Occurrence}
    (hbegin : ∀ work, keeps (.begin config.engine systemPrompt work))
    (hstep : ∀ j, keeps j → j.step.Stays p keeps) (h : d.Stays keeps)
    (hr : Run config systemPrompt c d os d') : d'.Stays keeps := by
  induction hr with
  | nil => exact h
  | snoc _ next ih => exact ih.next hbegin hstep next

/-- What a worker asks of the agent is asked by its unit of work. -/
theorem Stays.asked {d d' : Desk} {i : Nat} {q : Agent.Request}
    (hstep : ∀ j, keeps j → j.step.Stays p keeps) (h : d.Stays keeps)
    (hn : Next config systemPrompt c d [.worked i c (.asked (.agent q))] d') :
    p (.outside (.agent q)) := by
  cases hn with
  | asked step => exact (Job.stays_of_step hstep h step).1
  | pleaded => exact h.1.elim

end Desk

namespace Situation

/-- What the steps of every unit of work may ask of the agent is all that is asked of it in a
run. -/
theorem asked_of_stays {sessions : SessionTable} {ms : List Move} {before after : List Occurrence}
    {i : Nat} {q : Agent.Request} (hbegin : ∀ work, keeps (.begin config.engine systemPrompt work))
    (hstep : ∀ j, keeps j → j.step.Stays p keeps)
    (hrecord : ((start config systemPrompt sessions).run ms).recordOf c =
      before ++ .worked i c (.asked (.agent q)) :: after) : p (.outside (.agent q)) := by
  obtain ⟨os, hos, hrun⟩ := desk_run (start_sound config systemPrompt sessions) ms c
  obtain ⟨d, d', hbefore, hnext, -⟩ := hrun.split (hos.symm.trans hrecord)
  have hstart : ((start config systemPrompt sessions).desk c).Stays keeps := trivial
  exact (hstart.run hbegin hstep hbefore).asked hstep hnext

end Situation

end ChatRelay
