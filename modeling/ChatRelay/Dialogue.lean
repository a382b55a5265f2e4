import ChatRelay.Failure

/-!
# Dialogues

The relay does its work by asking things of the outside: the chat platform, the agent, the disk.
A `Service` says what can be asked of it and what the answer is, if the request does not fail. A
`Dialogue` is a piece of work that asks a finite number of things one after the other: it is the
tree of what it asks next, for every answer that it may get, and of the log lines in between. A
failed request is an answer like any other, so only the dialogue decides what happens then.

`run` plays a dialogue against something that answers, which may keep a state of its own, and
returns the record of all that was said and asked. Since the answers are arbitrary, a statement
about all runs is a statement about every behaviour of the outside.
-/

namespace ChatRelay

/-- What can be asked, and the type of the answer to each request. -/
structure Service where
  Request : Type
  Value : Request → Type

/-- The reply to a request: its answer, or why it failed. -/
abbrev Service.Reply (P : Service) (q : P.Request) : Type := Except Failure (P.Value q)

/-- A piece of work that asks a finite number of things and then has a result. -/
inductive Dialogue (P : Service) (α : Type) : Type where
  /-- The work is done. -/
  | done (a : α)
  /-- A line for the log, and then the rest. -/
  | say (line : String) (rest : Dialogue P α)
  /-- A request, and the rest for every reply to it. -/
  | ask (q : P.Request) (rest : P.Reply q → Dialogue P α)

namespace Dialogue

variable {P Q : Service} {α β γ : Type}

instance [Inhabited α] : Inhabited (Dialogue P α) := ⟨done default⟩

/-- Goes on with the result of a dialogue. -/
def bind : Dialogue P α → (α → Dialogue P β) → Dialogue P β
  | done a, f => f a
  | say line rest, f => say line (rest.bind f)
  | ask q rest, f => ask q fun r => (rest r).bind f

instance : Monad (Dialogue P) where
  pure := done
  bind := bind

/-- Writes a line to the log. -/
def note (line : String) : Dialogue P Unit := say line (done ())

/-- Writes lines to the log. -/
def notes : List String → Dialogue P Unit
  | [] => done ()
  | line :: rest => say line (notes rest)

/-- Makes one request. -/
def request (q : P.Request) : Dialogue P (P.Reply q) := ask q done

/-- The dialogue in which every request is made by way of a dialogue with another service. -/
def via (through : (q : P.Request) → Dialogue Q (P.Reply q)) : Dialogue P α → Dialogue Q α
  | done a => done a
  | say line rest => say line (rest.via through)
  | ask q rest => (through q).bind fun r => (rest r).via through

/-- One thing that happens in a dialogue. -/
inductive Event (P : Service) where
  | said (line : String)
  | asked (q : P.Request) (reply : P.Reply q)

/-- Plays a dialogue against something that answers. -/
def run {σ : Type} (answer : σ → (q : P.Request) → P.Reply q × σ) :
    σ → Dialogue P α → α × σ × List (Event P)
  | s, done a => (a, s, [])
  | s, say line rest =>
    let r := run answer s rest
    (r.1, r.2.1, .said line :: r.2.2)
  | s, ask q rest =>
    let r := run answer (answer s q).2 (rest (answer s q).1)
    (r.1, r.2.1, .asked q (answer s q).1 :: r.2.2)

/-- It makes no difference which two of three dialogues are put together first. -/
theorem bind_assoc (d : Dialogue P α) (f : α → Dialogue P β) (g : β → Dialogue P γ) :
    (d.bind f).bind g = d.bind fun a => (f a).bind g := by
  induction d with
  | done a => rfl
  | say line rest ih => simp [bind, ih]
  | ask q rest ih => simp [bind, ih]

/-- Playing one dialogue after another is playing both in a row. -/
theorem run_bind {σ : Type} (answer : σ → (q : P.Request) → P.Reply q × σ) (s : σ)
    (d : Dialogue P α) (f : α → Dialogue P β) :
    run answer s (d.bind f) =
      let first := run answer s d
      let second := run answer first.2.1 (f first.1)
      (second.1, second.2.1, first.2.2 ++ second.2.2) := by
  induction d generalizing s with
  | done a => simp [bind, run]
  | say line rest ih => simp [bind, run, ih]
  | ask q rest ih => simp [bind, run, ih]

end Dialogue

end ChatRelay
