import ChatRelay.Conversation
import ChatRelay.Rehearsal.World

/-!
# Rehearsing one conversation

A conversation is rehearsed alone, without an engine. A session that it reports may go on record;
it never has to recall one.
-/

namespace ChatRelay.Rehearsal

/-- A conversation in a rehearsal, with the world around it and the log. -/
structure Solo where
  conversation : Conversation
  world : World
  /-- Whether a reported session goes on record. -/
  notify : Bool := true
  log : List String := []

namespace Solo

/-- The reply to a request of the conversation. -/
def reply (s : Solo) : (q : Work.Request) → Work.service.Reply q × Solo
  | .recall => (.ok s.conversation.session, s)
  | .report session =>
    (.ok (),
      if s.notify then { s with world := s.world.record [.text "session", .text session] } else s)
  | .outside q =>
    let r := World.partner.respond 0 s.world q
    (r.1, { s with world := r.2.1, log := s.log ++ r.2.2 })

/-- One step of the conversation, or its outcome. -/
def step (s : Solo) : Except Failure Unit ⊕ Solo :=
  match s.conversation.step with
  | .finished outcome => .inl outcome
  | .silent c => .inr { s with conversation := c }
  | .say line c => .inr { s with conversation := c, log := s.log ++ [line] }
  | .ask q next =>
    let r := s.reply q
    .inr { r.2 with conversation := next r.1 }

end Solo

end ChatRelay.Rehearsal
