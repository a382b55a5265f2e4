import ChatRelay.Dialogue

/-!
# Machines

A conversation with an agent may hear any number of events, so it is no dialogue with a finite
number of requests. It is a machine: a state, and a rule that says what the machine does next in
each state. It may finish, go on by itself, write a line to the log, or ask something and go on
with the reply. Between a request and its reply the machine stands still, and other machines may
run.

A dialogue is a machine whose state is what is left of it.
-/

namespace ChatRelay

/-- What a machine does next. -/
inductive Step (P : Service) (σ ρ : Type) : Type where
  /-- The machine has finished with a result. -/
  | finished (r : ρ)
  /-- The machine goes on by itself. -/
  | silent (next : σ)
  /-- The machine writes a line to the log. -/
  | say (line : String) (next : σ)
  /-- The machine asks something. -/
  | ask (q : P.Request) (next : P.Reply q → σ)

namespace Step

variable {P : Service} {σ τ ρ υ : Type}

/-- The step of a machine that runs inside another one: its states are wrapped, and the outer
machine goes on when the inner one has finished. -/
def inside (wrap : σ → τ) (after : ρ → τ) : Step P σ ρ → Step P τ υ
  | finished r => silent (after r)
  | silent s => silent (wrap s)
  | say line s => say line (wrap s)
  | ask q next => ask q fun r => wrap (next r)

/-- A machine has not finished when one inside it has. -/
theorem inside_ne_finished (inner : Step P σ ρ) (wrap : σ → τ) (after : ρ → τ) (r : υ) :
    (inner.inside wrap after : Step P τ υ) ≠ .finished r := by
  cases inner <;> exact nofun

end Step

/-- What a dialogue does next. -/
def Dialogue.step {P : Service} {α : Type} : Dialogue P α → Step P (Dialogue P α) α
  | .done a => .finished a
  | .say line rest => .say line rest
  | .ask q rest => .ask q rest

end ChatRelay
