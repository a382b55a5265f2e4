import ChatRelay.Rehearsal.Partner

/-!
# Scripted turns

A playbook says what happens in each turn of an agent: its first turns have a script of their
own, and all later ones share one. An item of a script is an event, a failure, or a gate that
must be open before the turn goes on. Every task may have one turn open.
-/

namespace ChatRelay.Rehearsal

/-- An item of the script of a turn. -/
inductive Playbook.Item (ε : Type) where
  | event (e : ε)
  | fails (failure : Failure)
  | gate (name : String)

/-- An open turn: its number, its prompt, and the items that are left. -/
structure Playbook.OpenTurn (ε : Type) where
  number : Nat
  prompt : String
  left : List (Playbook.Item ε)

/-- The scripts of all turns, the number of turns started, and the open turns. -/
structure Playbook (ε : Type) where
  turns : List (List (Playbook.Item ε)) := []
  rest : List (Playbook.Item ε) := []
  started : Nat := 0
  openTurns : List (Task × Playbook.OpenTurn ε) := []

namespace Playbook

variable {ε : Type}

instance : Inhabited (Playbook ε) := ⟨{}⟩

/-- The open turn of a task. -/
def turnOf (b : Playbook ε) (task : Task) : Option (OpenTurn ε) :=
  (b.openTurns.find? fun t => t.1 == task).map (·.2)

/-- The playbook with the open turn of a task closed. -/
def close (b : Playbook ε) (task : Task) : Playbook ε :=
  { b with openTurns := b.openTurns.filter fun t => t.1 != task }

/-- The playbook with the open turn of a task changed. -/
def setTurn (b : Playbook ε) (task : Task) (turn : OpenTurn ε) : Playbook ε :=
  { b.close task with openTurns := (task, turn) :: (b.close task).openTurns }

/-- Starts a turn of a task. -/
def start (b : Playbook ε) (task : Task) (prompt : String) : Playbook ε :=
  let number := b.started + 1
  { b.setTurn task ⟨number, prompt, b.turns.getD b.started b.rest⟩ with started := number }

/-- The first closed gate before the next event. -/
def closedGate (gates : Gates) : List (Item ε) → Option String
  | .gate name :: rest => if gates.isOpen name then closedGate gates rest else some name
  | _ => none

/-- The items after the gates at the start. -/
def dropGates : List (Item ε) → List (Item ε)
  | .gate _ :: rest => dropGates rest
  | items => items

/-- The next item of the open turn of a task that is no gate, and the playbook without it. -/
def next (b : Playbook ε) (task : Task) : Option (OpenTurn ε × Item ε) × Playbook ε :=
  match b.turnOf task with
  | none => (none, b)
  | some turn =>
    match dropGates turn.left with
    | [] => (none, b.setTurn task { turn with left := [] })
    | item :: rest => (some (turn, item), b.setTurn task { turn with left := rest })

end Playbook

/-- A text with the number of its turn filled in. -/
def fillNumber (n : Nat) (s : String) : String := s.replace "\x7bn\x7d" (toString n)

end ChatRelay.Rehearsal
