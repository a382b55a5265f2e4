import ChatRelay.Chat
import ChatRelay.Directive
import ChatRelay.Outbox
import ChatRelay.Transcript

/-!
# The history of a channel

The chat platform hands out messages in pages, newest first, and a page may be shorter than it
was asked for. To answer a history command the relay first skips messages in large pages, then
collects messages in small ones. Every page starts behind the last message of the page before
it, and an empty page ends the work. A failure of the chat platform is the answer itself.
-/

namespace ChatRelay.History

open Outbox (Act)

/-- The most messages of a page that is skipped. -/
def skipPage : Nat := 100

/-- The most messages of a page that is collected. -/
def collectPage : Nat := 30

/-- Skips messages, and returns the id of the last message seen. -/
def skip (channel : String) (before : Option String) (left : Nat) :
    Act (Except Failure (Option String)) :=
  if left = 0 then .done (.ok before)
  else
    .ask (.history channel (min left skipPage) before) fun
      | .error e => .done (.error e)
      | .ok (([] : List Message)) => .done (.ok before)
      | .ok ((m :: ms : List Message)) =>
        skip channel (some ((m :: ms).getLast (by simp)).id) (left - (ms.length + 1))
termination_by left

/-- Collects messages. -/
def collect (channel : String) (before : Option String) (left : Nat) :
    Act (Except Failure (List Message)) :=
  if left = 0 then .done (.ok [])
  else
    .ask (.history channel (min left collectPage) before) fun
      | .error e => .done (.error e)
      | .ok (([] : List Message)) => .done (.ok [])
      | .ok ((m :: ms : List Message)) => do
        let rest ←
          collect channel (some ((m :: ms).getLast (by simp)).id) (left - (ms.length + 1))
        return rest.map ((m :: ms) ++ ·)
termination_by left

/-- The messages of a channel that a request asks for. -/
def messages (channel : String) (request : HistoryRequest) :
    Act (Except Failure (List Message)) := do
  match ← skip channel none request.offset.toNat with
  | .error e => return .error e
  | .ok before => collect channel before request.count.toNat

/-- The answer when the chat platform fails. -/
def failed (e : Failure) : Act String :=
  .say s!"[!discord history] Error: {e.message}" (.done s!"--- history error: {e.message} ---")

/-- The transcript of a channel. -/
def transcript (channel : Chat.Channel) (request : HistoryRequest) : Act String := do
  match ← messages channel.id request with
  | .error e => failed e
  | .ok ms => return Transcript.render channel.name ms request.offset

/-- The answer to a history command. -/
def answer (place : Place) (request : HistoryRequest) : Act String :=
  match request.channel with
  | none => transcript ⟨place.channelId, place.channelName⟩ request
  | some ref =>
    if ref = "" then transcript ⟨place.channelId, place.channelName⟩ request
    else
      .ask (.resolve ref) fun
        | .error e => failed e
        | .ok none => .done s!"--- history error: Channel <#{ref}> is not a text channel ---"
        | .ok (some (channel : Chat.Channel)) => transcript channel request

end ChatRelay.History
