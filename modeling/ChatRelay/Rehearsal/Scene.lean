import ChatRelay.Platform
import ChatRelay.Rehearsal.Backstage
import ChatRelay.Rehearsal.Guild
import ChatRelay.Rehearsal.Playbook

/-!
# The world of the relay in a rehearsal

A scripted Discord and a scripted agent service, with what is behind the stage. Starting a query
goes on record with its options, and so does its end.
-/

namespace ChatRelay.Rehearsal

/-- The world of the relay. -/
structure Scene where
  guild : Guild := {}
  book : Playbook Claude.Message := {}
  back : Backstage := {}

instance : Inhabited Scene := ⟨{}⟩

namespace Scene

/-- The message as it comes in a query, with the number of the query filled in. -/
def happen (n : Nat) : Claude.Message → Claude.Message
  | .system session => .system (session.map (fillNumber n))
  | .assistant blocks =>
    .assistant (blocks.map fun b => match b with
      | .text s => .text (fillNumber n s)
      | .other => .other)
  | .result session subtype => .result (session.map (fillNumber n)) (subtype.map (fillNumber n))
  | .other => .other

/-- The world with one more entry of the record. -/
def record (s : Scene) (entry : List Json) : Scene := { s with back := s.back.record entry }

/-- An optional text in a record. -/
def optional (t : Option String) : Json := (t.map Json.plain).getD .null

/-- The options of a query in the record. -/
def recorded (o : Claude.Options) : Json :=
  .object [("model", .text o.model), ("cwd", .text o.workdir), ("resume", optional o.resume),
    ("system_prompt", optional o.systemPrompt), ("max_turns", .integer o.maxTurns),
    ("permission_mode", .text o.permissionMode)]

/-- Starts a query. -/
def startQuery (s : Scene) (task : Task) (prompt : String) (o : Claude.Options) : Scene :=
  let book := s.book.start task prompt
  { s with book }.record [.text "query", .integer book.started, .text prompt, recorded o]

/-- The next message of the query of a task. -/
def nextMessage (s : Scene) (task : Task) : Except Failure (Option Claude.Message) × Scene :=
  let taken := s.book.next task
  let after := { s with book := taken.2 }
  match taken.1 with
  | some (turn, .event m) => (.ok (some (happen turn.number m)), after)
  | some (_, .fails failure) => (.error failure, after)
  | _ => (.ok none, after)

/-- Closes the query of a task. -/
def closeQuery (s : Scene) (task : Task) : Scene :=
  match s.book.turnOf task with
  | none => s
  | some turn =>
    { s with book := s.book.close task }.record [.text "query_end", .integer turn.number]

/-- A request arrives. -/
def arrive (s : Scene) : Platform.Request → Scene × Nat
  | .discord q =>
    let arrived := s.guild.arrive q
    ({ s with
        guild := arrived.1
        back := { s.back with trace := s.back.trace ++ Guild.entries q } },
      arrived.2)
  | .web url => (s.record [.text "http", .text url], 0)
  | _ => (s, 0)

/-- The closed gate that a request waits for. -/
def barrier (s : Scene) (gates : Gates) (task : Task) (n : Nat) : Platform.Request → Option String
  | .discord q => s.guild.barrier gates n q
  | .claude .next => (s.book.turnOf task).bind fun turn => Playbook.closedGate gates turn.left
  | _ => none

/-- A request is answered. -/
def answer (s : Scene) (task : Task) (n : Nat) :
    (q : Platform.Request) → Platform.service.Reply q × Scene × List String
  | .discord q =>
    let r := s.guild.answer n q
    (r.1, { s with guild := r.2 }, [])
  | .claude (.query prompt o) => (.ok (), s.startQuery task prompt o, [])
  | .claude .next =>
    let r := s.nextMessage task
    (r.1, r.2, [])
  | .claude .close => (.ok (), s.closeQuery task, [])
  | .disk q =>
    let r := s.back.askDisk q
    (r.1, { s with back := r.2 }, [])
  | .web url => (s.back.webFile url, s, [])
  | .freshName =>
    let r := s.back.nextName
    (.ok r.1, { s with back := r.2 }, [])
  | .store change =>
    let r := s.back.makeChange change
    (r.1, { s with back := r.2.1 }, r.2.2)

/-- The world of the relay as a partner. -/
def partner : Partner Platform.service Scene where
  arrive s _ q := s.arrive q
  barrier s gates task n q := s.barrier gates task n q
  answer s task n q := s.answer task n q

end Scene

end ChatRelay.Rehearsal
