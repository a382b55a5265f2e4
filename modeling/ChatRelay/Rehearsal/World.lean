import ChatRelay.Rehearsal.Backstage
import ChatRelay.Rehearsal.ChatRoom
import ChatRelay.Rehearsal.Playbook

/-!
# The outside of the engine in a rehearsal

A scripted chat platform and a scripted agent, with what is behind the stage. Starting a turn of
the agent goes on record with all that the turn is told, and so does closing it.
-/

namespace ChatRelay.Rehearsal

/-- An event of a scripted agent. The text may be the prompt of the turn, and the number of the
turn is filled in. -/
structure ScriptedEvent where
  event : Agent.Event
  echo : Bool := false

/-- The event as it happens in a turn. -/
def ScriptedEvent.happen (e : ScriptedEvent) (number : Nat) (prompt : String) : Agent.Event :=
  { e.event with
    text := if e.echo then prompt else fillNumber number e.event.text
    session := e.event.session.map (fillNumber number) }

/-- The outside of the engine. -/
structure World where
  room : ChatRoom := {}
  book : Playbook ScriptedEvent := {}
  /-- Whether the end of a turn goes on record. -/
  closable : Bool := true
  back : Backstage := {}

instance : Inhabited World := ⟨{}⟩

namespace World

/-- An optional text in a record. -/
def optional (s : Option String) : Json := (s.map Json.plain).getD .null

/-- The world with one more entry of the record. -/
def record (w : World) (entry : List Json) : World := { w with back := w.back.record entry }

/-- Starts a turn. -/
def startTurn (w : World) (task : Task) (t : Agent.Turn) : World :=
  let book := w.book.start task t.prompt
  let entry : List Json := [.text "turn", .integer book.started, .text t.prompt,
    optional t.session, .text t.workdir, optional t.systemPrompt]
  { w with book }.record (entry ++ w.back.fileList)

/-- Closes the turn of a task. -/
def closeTurn (w : World) (task : Task) : World :=
  match w.book.turnOf task with
  | none => w
  | some turn =>
    let closed := { w with book := w.book.close task }
    if w.closable then closed.record [.text "turn_end", .integer turn.number] else closed

/-- The next event of the turn of a task. -/
def nextEvent (w : World) (task : Task) : Except Failure (Option Agent.Event) × World :=
  let taken := w.book.next task
  let after := { w with book := taken.2 }
  match taken.1 with
  | some (turn, .event e) => (.ok (some (e.happen turn.number turn.prompt)), after)
  | some (_, .fails failure) => (.error failure, after)
  | _ => (.ok none, after)

/-- A request arrives. -/
def arrive (w : World) : Outside.Request → World × Nat
  | .chat q =>
    let arrived := w.room.arrive q
    ({ w with room := arrived.1, back := { w.back with trace := w.back.trace ++ arrived.2.2 } },
      arrived.2.1)
  | .web url => (w.record [.text "http", .text url], 0)
  | _ => (w, 0)

/-- The closed gate that a request waits for. -/
def barrier (w : World) (gates : Gates) (task : Task) (n : Nat) : Outside.Request → Option String
  | .chat q => w.room.barrier gates n q
  | .agent .next => (w.book.turnOf task).bind fun turn => Playbook.closedGate gates turn.left
  | _ => none

/-- A request is answered. -/
def answer (w : World) (task : Task) (n : Nat) :
    (q : Outside.Request) → Outside.service.Reply q × World × List String
  | .chat q =>
    let r := w.room.answer n q
    (r.1, { w with room := r.2 }, [])
  | .agent (.start t) => (.ok (), w.startTurn task t, [])
  | .agent .next =>
    let r := w.nextEvent task
    (r.1, r.2, [])
  | .agent .close => (.ok (), w.closeTurn task, [])
  | .disk q =>
    let r := w.back.askDisk q
    (r.1, { w with back := r.2 }, [])
  | .web url => (w.back.webFile url, w, [])
  | .freshName =>
    let r := w.back.nextName
    (.ok r.1, { w with back := r.2 }, [])
  | .store change =>
    let r := w.back.makeChange change
    (r.1, { w with back := r.2.1 }, r.2.2)

/-- The outside of the engine as a partner. -/
def partner : Partner Outside.service World where
  arrive w _ q := w.arrive q
  barrier w gates task n q := w.barrier gates task n q
  answer w task n q := w.answer task n q

end World

end ChatRelay.Rehearsal
