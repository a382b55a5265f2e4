import ChatRelay.Conversation
import ChatRelay.Proofs.Kinds
import ChatRelay.Proofs.Play

/-!
# What an event of a turn leads to

The work on an event ends a turn with the first question of the event's text, and with nothing
else unless it fails (`Conversation.yields_react`). A text is worked on unless it cannot be read
(`Conversation.yields_carryOut`). The answer to a history command is a transcript or says why there
is none (`History.yields_answer`).
-/

namespace ChatRelay

/-! ## Questions -/

/-- What working on a text comes to: the first question of its directives, or why it cannot be
read. -/
def Response.verdict (r : Response) : Conversation.Verdict :=
  match r.directives with
  | .error refusal => .error (.numeral refusal)
  | .ok ds => .ok (ds.findSome? Directive.feedback?)

/-- The first question of a text, if it can be read and asks one. -/
def Response.question? (r : Response) : Option Feedback :=
  match r.directives with
  | .error _ => none
  | .ok ds => ds.findSome? Directive.feedback?

/-- The question that an event asks. Only a text that is not blank asks one. -/
def Agent.Event.question? (e : Agent.Event) : Option Feedback :=
  match e.kind with
  | .text => if Text.allBlank e.text then none else (Response.read e.text).question?
  | _ => none

/-- The verdict on a text that can be read is the question that it asks. -/
theorem Response.question?_of_verdict {r : Response} {question : Option Feedback}
    (h : r.verdict = .ok question) : question = r.question? := by
  unfold verdict at h
  unfold question?
  cases hds : r.directives with
  | error refusal =>
    rw [hds] at h
    cases h
  | ok ds =>
    rw [hds] at h
    cases h
    rfl

namespace Outbox

/-- Directives are carried out up to the first question. -/
theorem yields_play (place : Place) (p : Pending) (ds : List Directive) :
    (play place p ds).Yields fun r => r.2 = ds.findSome? Directive.feedback? := by
  induction ds generalizing p with
  | nil => rfl
  | cons d rest ih =>
    rcases d.kinds place with hheld | ⟨act, hact⟩ | ⟨question, hquestion⟩
    · rw [play_of_held hheld, List.findSome?_cons, Directive.feedback?_of_held hheld]
      exact ih _
    · rw [play_of_act hact, List.findSome?_cons, Directive.feedback?_of_act hact]
      exact Dialogue.yields_bind_of_forall fun _ => Dialogue.yields_bind_of_forall fun _ => ih _
    · rw [play_of_question hquestion, List.findSome?_cons, hquestion]
      exact Dialogue.yields_bind_of_forall fun _ => rfl

/-- What is asked by directives is the first question among them. -/
theorem yields_dispatch (place : Place) (ds : List Directive) :
    (dispatch place ds).Yields (· = ds.findSome? Directive.feedback?) := by
  refine Dialogue.yields_bind (yields_play place {} ds) fun r hr => ?_
  obtain ⟨p, question⟩ := r
  rw [← show question = _ from hr]
  cases question with
  | some question => rfl
  | none => exact Dialogue.yields_bind_of_forall fun _ => rfl

end Outbox

namespace Conversation

/-- The work on a text comes to what the text says. -/
theorem yields_carryOut (place : Place) (text : String) :
    (carryOut place text).Yields (· = (Response.read text).verdict) := by
  refine Dialogue.yields_bind_of_forall fun _ => ?_
  unfold Response.verdict
  cases (Response.read text).directives with
  | error refusal => rfl
  | ok ds =>
    refine Dialogue.yields_bind (Dialogue.yields_via (Outbox.yields_dispatch place ds))
      fun question hquestion => ?_
    exact congrArg Except.ok hquestion

/-- Unless it fails, the work on what an event says comes to the question that it asks. -/
theorem yields_heed (place : Place) (e : Agent.Event) :
    (heed place e).Yields fun verdict => ∀ question, verdict = .ok question →
      question = e.question? := by
  unfold heed Agent.Event.question?
  cases e.kind with
  | session =>
    rintro question ⟨⟩
    rfl
  | result =>
    dsimp only
    split
    all_goals
      rintro question ⟨⟩
      rfl
  | text =>
    dsimp only
    split
    · rintro question ⟨⟩
      rfl
    · refine (yields_carryOut place e.text).mono ?_
      rintro verdict rfl question hquestion
      exact Response.question?_of_verdict hquestion

/-- Unless it fails, the work on an event comes to the question that the event asks. -/
theorem yields_react (place : Place) (known : Option String) (e : Agent.Event) :
    (react place known e).Yields fun verdict => ∀ question, verdict = .ok question →
      question = e.question? := by
  refine Dialogue.yields_bind_of_forall fun reported => ?_
  cases reported with
  | error failure => exact nofun
  | ok _ => exact yields_heed place e

end Conversation

/-! ## Answers -/

/-- The answers to a history command: a transcript, or a line that says why there is none. -/
inductive History.IsAnswer (request : HistoryRequest) : String → Prop where
  | transcript (name : String) (ms : List Message) :
      IsAnswer request (Transcript.render name ms request.offset)
  | failed (e : Failure) : IsAnswer request s!"--- history error: {e.message} ---"
  | noTextChannel {ref : String} (channel : request.channel = some ref) :
      IsAnswer request s!"--- history error: Channel <#{ref}> is not a text channel ---"

namespace History

/-- A failure is told in an answer. -/
theorem yields_failed (request : HistoryRequest) (e : Failure) :
    (failed e).Yields (IsAnswer request) := IsAnswer.failed e

/-- A history is answered with a transcript, or with the failure to get it. -/
theorem yields_transcript (channel : Chat.Channel) (request : HistoryRequest) :
    (transcript channel request).Yields (IsAnswer request) := by
  refine Dialogue.yields_bind_of_forall fun outcome => ?_
  cases outcome with
  | error e => exact yields_failed request e
  | ok ms => exact IsAnswer.transcript channel.name ms

/-- A history command is answered with a transcript, or with a line that says why there is
none. -/
theorem yields_answer (place : Place) (request : HistoryRequest) :
    (answer place request).Yields (IsAnswer request) := by
  unfold answer
  cases hchannel : request.channel with
  | none => exact yields_transcript _ request
  | some ref =>
    dsimp only
    split
    · exact yields_transcript _ request
    · intro reply
      match reply with
      | .error e => exact yields_failed request e
      | .ok none => exact IsAnswer.noTextChannel hchannel
      | .ok (some channel) => exact yields_transcript channel request

end History

end ChatRelay
