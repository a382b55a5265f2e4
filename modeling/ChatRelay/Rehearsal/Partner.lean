import ChatRelay.Dialogue

/-!
# Rehearsal partners

In a rehearsal the relay works against partners that follow a script. A partner has a state. A
request first arrives, which is put on record and gives it a number; then it may have to wait for
a gate that is still closed; then it is answered.

Several tasks may work at a time, and a partner is told which one a request comes from.
-/

namespace ChatRelay.Rehearsal

/-- The gates that are open: those that were opened, or all. -/
structure Gates where
  opened : List String := []
  all : Bool := false
  deriving Repr, Inhabited

/-- Whether a gate is open. -/
def Gates.isOpen (g : Gates) (name : String) : Bool := g.all || g.opened.contains name

/-- The gates with one more open. -/
def Gates.release (g : Gates) (name : String) : Gates := { g with opened := name :: g.opened }

/-- The number of a task. -/
abbrev Task := Nat

/-- A partner with states in `σ` that answers the requests to a service. -/
structure Partner (P : Service) (σ : Type) where
  /-- A request arrives and gets a number. -/
  arrive : σ → Task → P.Request → σ × Nat
  /-- The closed gate that a request with this number waits for. -/
  barrier : σ → Gates → Task → Nat → P.Request → Option String
  /-- A request with this number is answered, perhaps with lines for the log. -/
  answer : σ → Task → Nat → (q : P.Request) → P.Reply q × σ × List String

namespace Partner

variable {P : Service} {σ α : Type}

/-- Lets a request arrive and answers it, whatever gate is closed. -/
def respond (p : Partner P σ) (task : Task) (s : σ) (q : P.Request) :
    P.Reply q × σ × List String :=
  let arrived := p.arrive s task q
  p.answer arrived.1 task arrived.2 q

/-- Plays a dialogue against the partner; the log lines come in their order. -/
def play (p : Partner P σ) (task : Task) : σ → Dialogue P α → α × σ × List String
  | s, .done a => (a, s, [])
  | s, .say line rest =>
    let r := p.play task s rest
    (r.1, r.2.1, line :: r.2.2)
  | s, .ask q rest =>
    let reply := p.respond task s q
    let r := p.play task reply.2.1 (rest reply.1)
    (r.1, r.2.1, reply.2.2 ++ r.2.2)

end Partner

end ChatRelay.Rehearsal
