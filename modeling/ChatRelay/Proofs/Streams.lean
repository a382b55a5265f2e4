import ChatRelay.Proofs.Resuming
import ChatRelay.Proofs.Turns
import ChatRelay.Proofs.Way
import ChatRelay.Proofs.World

/-!
# The streams of the agent service

A query of the agent service opens a stream of messages, which are taken one by one until the stream
is closed. `Claude.Flow` is what is to be known of the stream at any time: none is open, or messages
may be taken, or it can only be closed. `Flow.next` says what may be asked then; a second query, or
another message behind one that asks a question, may not.

A machine flows if all its steps keep to that (`Step.Flows`), and this is all that is to be shown of
a conversation and of a unit of work. What is asked along a flow is a list of streams, of which only
the last one may be open (`Claude.streams_of_flow`). The main statement is
`Conversation.streams_closed`.
-/

namespace ChatRelay

open Dialogue (Event)

namespace Claude

/-- The question that a message asks. -/
def question? (m : Message) : Option Feedback := (heard m).question?

/-- A stream of messages: the query that opens it, what is taken from it, and how it is closed,
unless it is still open. -/
structure Stream where
  prompt : String
  options : Options
  opened : Except Failure Unit
  taken : List (Except Failure (Option Message)) := []
  closed : Option (Except Failure Unit) := none

namespace Stream

/-- What is asked for a stream. -/
def record (x : Stream) : List (Event service) :=
  .asked (.query x.prompt x.options) x.opened ::
    (x.taken.map (fun r => .asked .next r) ++ x.closed.toList.map fun r => .asked .close r)

/-- The stream when one more message is taken, or there is none. -/
def take (x : Stream) (r : Except Failure (Option Message)) : Stream :=
  { x with taken := x.taken ++ [r] }

/-- The stream when it is closed. -/
def close (x : Stream) (r : Except Failure Unit) : Stream := { x with closed := some r }

/-- Only the last message that is taken may ask a question, and nothing is taken from a stream that
could not be opened, behind its end, or when it has failed. -/
structure Attentive (x : Stream) : Prop where
  opened : x.taken ≠ [] → x.opened = .ok ()
  quiet : ∀ r ∈ x.taken.dropLast, ∃ m, r = .ok (some m) ∧ question? m = none

/-- A message that is taken is put at the end of the record of an open stream. -/
theorem record_take {x : Stream} (hopen : x.closed = none) (r : Except Failure (Option Message)) :
    (x.take r).record = x.record ++ [.asked .next r] := by
  simp [record, take, hopen]

/-- Closing an open stream is put at the end of its record. -/
theorem record_close {x : Stream} (hopen : x.closed = none) (r : Except Failure Unit) :
    (x.close r).record = x.record ++ [.asked .close r] := by
  simp [record, close, hopen]

/-- What is added to the record of the last stream is added to the record of all of them. -/
theorem record_concat {xs : List Stream} {x x' : Stream} {o : Event service}
    (h : x'.record = x.record ++ [o]) :
    (xs ++ [x']).flatMap record = (xs ++ [x]).flatMap record ++ [o] := by
  simp only [List.flatMap_append, List.flatMap_singleton, h, List.append_assoc]

/-- One more stream that is opened adds its query. -/
theorem record_open (xs : List Stream) (prompt : String) (options : Options)
    (opened : Except Failure Unit) :
    (xs ++ [({ prompt, options, opened } : Stream)]).flatMap record =
      xs.flatMap record ++ [.asked (.query prompt options) opened] := by
  rw [List.flatMap_append, List.flatMap_singleton]
  rfl

/-- From a stream whose messages asked nothing one more may be taken. -/
theorem attentive_take {x : Stream} (opened : x.opened = .ok ())
    (quiet : ∀ r ∈ x.taken, ∃ m, r = .ok (some m) ∧ question? m = none)
    (r : Except Failure (Option Message)) : (x.take r).Attentive := by
  have htaken : (x.take r).taken.dropLast = x.taken := List.dropLast_concat
  exact ⟨fun _ => opened, htaken.symm ▸ quiet⟩

end Stream

/-! ## Flows -/

/-- Where the agent service stands: no stream is open, or messages may be taken from one that is,
or it is to be closed. -/
inductive Flow where
  | shut
  | flowing
  | spent
  deriving DecidableEq, Repr

namespace Flow

/-- What may be asked, and where that leads. -/
def next : Flow → Event service → Option Flow
  | .shut, .asked (.query _ _) (.ok _) => some .flowing
  | .shut, .asked (.query _ _) (.error _) => some .spent
  | .flowing, .asked .next (.ok (some (m : Message))) =>
    some (if (question? m).isSome then .spent else .flowing)
  | .flowing, .asked .next (.ok none) => some .spent
  | .flowing, .asked .next (.error _) => some .spent
  | .flowing, .asked .close _ => some .shut
  | .spent, .asked .close _ => some .shut
  | _, _ => none

/-- What may be asked one after the other, and where that leads. -/
def along (f : Flow) (os : List (Event service)) : Option Flow := os.foldlM next f

/-- What is asked next goes on from where the requests before it have led. -/
theorem along_append {f f' : Flow} {os os' : List (Event service)} (h : f.along os = some f') :
    f.along (os ++ os') = f'.along os' := by
  rw [along, List.foldlM_append]
  exact congrArg (· >>= fun f => f.along os') h

/-- An open stream can be closed at any time. -/
theorem next_close {f : Flow} (hopen : f ≠ .shut) (r : service.Reply .close) :
    f.next (.asked .close r) = some .shut := by
  cases f with
  | shut => exact absurd rfl hopen
  | flowing | spent => rfl

end Flow

/-- How the streams up to some time stand. -/
inductive Standing : Flow → List Stream → Prop where
  | shut {xs : List Stream} (closed : ∀ x ∈ xs, x.closed.isSome)
      (attentive : ∀ x ∈ xs, x.Attentive) : Standing .shut xs
  | flowing {xs : List Stream} {x : Stream} (earlier : Standing .shut xs)
      (isOpen : x.closed = none) (opened : x.opened = .ok ())
      (quiet : ∀ r ∈ x.taken, ∃ m, r = .ok (some m) ∧ question? m = none) :
      Standing .flowing (xs ++ [x])
  | spent {xs : List Stream} {x : Stream} (earlier : Standing .shut xs)
      (isOpen : x.closed = none) (attentive : x.Attentive) : Standing .spent (xs ++ [x])

namespace Standing

variable {f f' : Flow} {xs : List Stream}

/-- An open stream is the last one. -/
theorem last_of_ne_shut (h : Standing f xs) (hopen : f ≠ .shut) :
    ∃ earlier x, xs = earlier ++ [x] ∧ Standing .shut earlier ∧ x.closed = none ∧ x.Attentive := by
  cases h with
  | shut closed attentive => exact absurd rfl hopen
  | flowing earlier isOpen opened quiet =>
    have attentive : Stream.Attentive _ :=
      ⟨fun _ => opened, fun r hr => quiet r (List.dropLast_subset _ hr)⟩
    exact ⟨_, _, rfl, earlier, isOpen, attentive⟩
  | spent earlier isOpen attentive => exact ⟨_, _, rfl, earlier, isOpen, attentive⟩

/-- Where no stream is open, all are closed. -/
theorem closed (h : Standing .shut xs) : ∀ x ∈ xs, x.closed.isSome := by
  cases h with
  | shut closed attentive => exact closed

/-- All streams but the last one are closed. -/
theorem closed_dropLast (h : Standing f xs) : ∀ x ∈ xs.dropLast, x.closed.isSome := by
  by_cases hopen : f = .shut
  · subst hopen
    exact fun x hx => h.closed x (List.dropLast_subset xs hx)
  · obtain ⟨earlier, x, rfl, hearlier, -⟩ := h.last_of_ne_shut hopen
    rw [List.dropLast_concat]
    exact hearlier.closed

/-- All streams are attentive. -/
theorem attentive (h : Standing f xs) : ∀ x ∈ xs, x.Attentive := by
  by_cases hopen : f = .shut
  · subst hopen
    cases h with
    | shut closed attentive => exact attentive
  · obtain ⟨earlier, x, rfl, hearlier, -, hx⟩ := h.last_of_ne_shut hopen
    cases hearlier with
    | shut closed attentive =>
      rw [List.forall_mem_append, List.forall_mem_singleton]
      exact ⟨attentive, hx⟩

/-- When the open stream is closed, all streams are. -/
theorem concat_close {x : Stream} (h : Standing .shut xs) (attentive : x.Attentive)
    (r : Except Failure Unit) : Standing .shut (xs ++ [x.close r]) := by
  cases h with
  | shut closed hall =>
    refine .shut ?_ ?_
    · rw [List.forall_mem_append, List.forall_mem_singleton]
      exact ⟨closed, rfl⟩
    · rw [List.forall_mem_append, List.forall_mem_singleton]
      exact ⟨hall, attentive.opened, attentive.quiet⟩

/-- A message is taken from the stream that is open, and then it may only be closed. -/
theorem take_last (h : Standing .flowing xs) (r : Except Failure (Option Message)) :
    ∃ xs', Standing .spent xs' ∧
      xs'.flatMap Stream.record = xs.flatMap Stream.record ++ [.asked .next r] := by
  cases h with
  | @flowing xs x earlier isOpen opened quiet =>
    have attentive := Stream.attentive_take opened quiet r
    exact ⟨xs ++ [x.take r], .spent earlier isOpen attentive,
      Stream.record_concat (Stream.record_take isOpen r)⟩

/-- Behind a message that asks nothing another one may be taken. -/
theorem take_quiet (h : Standing .flowing xs) {m : Message} (hm : question? m = none) :
    ∃ xs', Standing .flowing xs' ∧
      xs'.flatMap Stream.record = xs.flatMap Stream.record ++ [.asked .next (.ok (some m))] := by
  cases h with
  | @flowing xs x earlier isOpen opened quiet =>
    refine ⟨xs ++ [x.take (.ok (some m))], .flowing earlier isOpen opened ?_,
      Stream.record_concat (Stream.record_take isOpen _)⟩
    rw [Stream.take, List.forall_mem_append, List.forall_mem_singleton]
    exact ⟨quiet, m, rfl, hm⟩

/-- Whatever stream is open is the one that is closed. -/
theorem close_last (h : Standing f xs) (hopen : f ≠ .shut) (r : Except Failure Unit) :
    ∃ xs', Standing .shut xs' ∧
      xs'.flatMap Stream.record = xs.flatMap Stream.record ++ [.asked .close r] := by
  obtain ⟨earlier, x, rfl, hearlier, isOpen, attentive⟩ := h.last_of_ne_shut hopen
  exact ⟨_, hearlier.concat_close attentive r, Stream.record_concat (Stream.record_close isOpen r)⟩

/-- Whatever may be asked is asked of the last stream, or opens one. -/
theorem next {o : Event service} (h : Standing f xs) (ho : f.next o = some f') :
    ∃ xs', Standing f' xs' ∧ xs'.flatMap Stream.record = xs.flatMap Stream.record ++ [o] := by
  unfold Flow.next at ho
  split at ho
  · rename_i prompt options u
    cases ho
    exact ⟨_, .flowing h rfl rfl (List.forall_mem_nil _), Stream.record_open xs _ _ (.ok u)⟩
  · rename_i prompt options e
    cases ho
    have attentive : Stream.Attentive { prompt, options, opened := .error e } :=
      ⟨fun htaken => absurd rfl htaken, List.forall_mem_nil _⟩
    exact ⟨_, .spent h rfl attentive, Stream.record_open xs _ _ _⟩
  · rename_i m
    cases hquestion : question? m with
    | some question =>
      rw [hquestion] at ho
      cases ho
      exact h.take_last (.ok (some m))
    | none =>
      rw [hquestion] at ho
      cases ho
      exact h.take_quiet hquestion
  · cases ho
    exact h.take_last (.ok none)
  · cases ho
    exact h.take_last (.error _)
  · cases ho
    exact h.close_last nofun _
  · cases ho
    exact h.close_last nofun _
  · cases ho

/-- What is asked along a flow goes on with the streams that there are. -/
theorem along {os : List (Event service)} (h : Standing f xs) (hos : f.along os = some f') :
    ∃ xs', Standing f' xs' ∧ xs'.flatMap Stream.record = xs.flatMap Stream.record ++ os := by
  induction os generalizing f xs with
  | nil =>
    cases hos
    exact ⟨xs, h, (List.append_nil _).symm⟩
  | cons o os ih =>
    rw [Flow.along, List.foldlM_cons] at hos
    obtain ⟨between, ho, hrest⟩ := Option.bind_eq_some_iff.mp hos
    obtain ⟨ys, hys, hrecord⟩ := h.next ho
    obtain ⟨xs', hxs', hrecord'⟩ := ih hys hrest
    refine ⟨xs', hxs', ?_⟩
    rw [hrecord', hrecord, List.append_assoc, List.singleton_append]

end Standing

/-- What is asked along a flow from the start is a list of streams. -/
theorem streams_of_flow {f : Flow} {os : List (Event service)} (h : Flow.along .shut os = some f) :
    ∃ xs, Standing f xs ∧ os = xs.flatMap Stream.record := by
  have hnone : Standing .shut [] := .shut (List.forall_mem_nil _) (List.forall_mem_nil _)
  obtain ⟨xs, hxs, hrecord⟩ := hnone.along h
  exact ⟨xs, hxs, hrecord.symm⟩

end Claude

/-! ## Machines -/

namespace Step

open Claude (Flow)

variable {σ τ ρ υ : Type} {s : Claude.Settings} {f : Flow}

/-- A step that keeps to a flow: what it asks may be asked then, whatever the world replies, and the
state that it leads to has come as far as the flow. -/
def Flows (s : Claude.Settings) (keeps : σ → Flow → Prop) (f : Flow) :
    Step Work.service σ ρ → Prop
  | .finished _ => True
  | .silent next => keeps next f
  | .say _ next => keeps next f
  | .ask q next => ∀ reply part, Work.Answered s q reply part →
    ∃ f', f.along (Claude.calls part) = some f' ∧ keeps (next reply) f'

/-- A machine whose steps keep to a flow keeps to it on its way. -/
theorem Goes.flows {step : σ → Step Work.service σ ρ} {keeps : σ → Flow → Prop} {a b : σ}
    {os : List (Event Work.service)} {ps : List (Event Platform.service)} (h : Goes step a os b)
    (relayed : Work.Relayed s os ps) (hstep : ∀ a f, keeps a f → (step a).Flows s keeps f)
    (ha : keeps a f) : ∃ f', f.along (Claude.calls ps) = some f' ∧ keeps b f' := by
  induction h generalizing f ps with
  | here a =>
    cases relayed
    exact ⟨f, rfl, ha⟩
  | @silent a next b os hnext rest ih =>
    have hflows := hstep a f ha
    rw [hnext] at hflows
    exact ih relayed hflows
  | @say a next b line os hnext rest ih =>
    have hflows := hstep a f ha
    rw [hnext] at hflows
    cases relayed with
    | said relayed =>
      obtain ⟨f', hrest, hb⟩ := ih relayed hflows
      exact ⟨f', hrest, hb⟩
  | @ask a b q next os hnext reply rest ih =>
    have hflows := hstep a f ha
    rw [hnext] at hflows
    cases relayed with
    | @asked _ _ _ part ps answered relayed =>
      obtain ⟨between, hpart, hkeeps⟩ := hflows reply part answered
      obtain ⟨f', hrest, hb⟩ := ih relayed hkeeps
      refine ⟨f', ?_, hb⟩
      rw [Claude.calls_append, Flow.along_append hpart]
      exact hrest

/-- A machine inside another one keeps to a flow when the states that it is wrapped in do, and the
one behind its end does. -/
theorem Flows.inside {inner : Step Work.service σ ρ} {keeps : σ → Flow → Prop}
    {keeps' : τ → Flow → Prop} {wrap : σ → τ} {after : ρ → τ} (h : inner.Flows s keeps f)
    (hwrap : ∀ a f, keeps a f → keeps' (wrap a) f)
    (hafter : ∀ r, inner = .finished r → keeps' (after r) f) :
    (inner.inside wrap after : Step Work.service τ υ).Flows s keeps' f := by
  cases inner with
  | finished r => exact hafter r rfl
  | silent next => exact hwrap next f h
  | say line next => exact hwrap next f h
  | ask q next =>
    intro reply part answered
    obtain ⟨f', hpart, hkeeps⟩ := h reply part answered
    exact ⟨f', hpart, hwrap _ f' hkeeps⟩

/-- A dialogue that asks neither the agent nor the store leaves the flow as it is. -/
theorem flows_dialogue {α : Type} {d : Dialogue Work.service α} {p : α → Prop}
    (hasks : d.Asks Work.Request.IsApart) (hyields : d.Yields p) :
    d.step.Flows s (fun d' f' => f' = f ∧ d'.Asks Work.Request.IsApart ∧ d'.Yields p) f := by
  cases d with
  | done a => trivial
  | say line rest => exact ⟨rfl, hasks, hyields⟩
  | ask q rest =>
    intro reply part answered
    refine ⟨f, ?_, rfl, hasks.2 reply, hyields reply⟩
    rw [answered.calls_eq_nil hasks.1]
    rfl

/-- A machine in which such a dialogue is played leaves the flow as it is. -/
theorem flows_inside_dialogue {α : Type} {d : Dialogue Work.service α} {p : α → Prop}
    {keeps : τ → Flow → Prop} {wrap : Dialogue Work.service α → τ} {after : α → τ}
    (hasks : d.Asks Work.Request.IsApart) (hyields : d.Yields p)
    (hwrap : ∀ d' : Dialogue Work.service α, d'.Asks Work.Request.IsApart → d'.Yields p →
      keeps (wrap d') f)
    (hafter : ∀ a, p a → keeps (after a) f) :
    (d.step.inside wrap after : Step Work.service τ υ).Flows s keeps f := by
  refine (flows_dialogue hasks hyields).inside ?_ ?_
  · rintro d' f' ⟨rfl, hasks', hyields'⟩
    exact hwrap d' hasks' hyields'
  · intro a hdone
    cases d with
    | done b =>
      cases hdone
      exact hafter a hyields
    | say line rest | ask q rest => cases hdone

end Step

/-! ## Conversations -/

namespace Conversation

open Claude (Flow)

variable {c : Conversation} {f : Flow} {s : Claude.Settings}

/-- How far a conversation has come with the agent service: a stream is open while a turn is, and
the work on an event leaves the turn open only if the stream may go on. -/
def Flows (c : Conversation) (f : Flow) : Prop :=
  match c.phase with
  | .prompting _ | .starting _ | .asked _ | .over _ => f = .shut
  | .answering work => f = .shut ∧ work.Asks Work.Request.IsApart
  | .listening => f = .flowing
  | .reacting work => f ≠ .shut ∧ work.Asks Work.Request.IsApart ∧
    work.Yields fun verdict => verdict = .ok none → f = .flowing
  | .closing _ => f ≠ .shut

/-- An event of a turn is a message that is taken from an open stream. -/
theorem flows_hear (c : Conversation) {reply : Outside.service.Reply (.agent .next)}
    {part : List (Event Platform.service)}
    (answered : Work.Answered s (.outside (.agent .next)) reply part) :
    ∃ f', Flow.along .flowing (Claude.calls part) = some f' ∧ (c.hear reply).Flows f' := by
  obtain ⟨taken, hcalls, rfl⟩ := Claude.calls_of_next answered.of_outside
  rw [hcalls]
  match taken with
  | .error e => exact ⟨.spent, rfl, nofun⟩
  | .ok none => exact ⟨.spent, rfl, nofun⟩
  | .ok (some (m : Claude.Message)) =>
    refine ⟨if (Claude.question? m).isSome then .spent else .flowing, rfl, ?_, ?_, ?_⟩
    · split <;> exact nofun
    · exact asks_react c.setup.place c.session (Claude.heard m)
    · refine (yields_react c.setup.place c.session (Claude.heard m)).mono ?_
      intro verdict hquestion hverdict
      have hnone : none = Claude.question? m := hquestion none hverdict
      rw [← hnone]
      rfl

/-- Whatever a conversation asks of the agent service may be asked then. -/
theorem step_flows (h : c.Flows f) : c.step.Flows s Flows f := by
  obtain ⟨setup, session, turnCount, depth, rounds, phase⟩ := c
  cases phase with
  | prompting prompt =>
    cases h
    simp only [step, prompted]
    split <;> rfl
  | starting prompt =>
    cases h
    intro reply part answered
    rw [Claude.calls_of_start answered.of_outside]
    rcases reply with e | _
    · exact ⟨.spent, rfl, by rintro ⟨⟩⟩
    · exact ⟨.flowing, rfl, rfl⟩
  | listening =>
    cases h
    exact fun reply part answered => flows_hear _ answered
  | reacting work =>
    obtain ⟨hopen, hasks, hyields⟩ := h
    refine Step.flows_inside_dialogue hasks hyields
      (fun work hwork hverdict => ⟨hopen, hwork, hverdict⟩) fun verdict hverdict => ?_
    -- Without a question the turn goes on listening, and its stream is not spent.
    rcases verdict with e | _ | question
    · exact hopen
    · exact hverdict rfl
    · exact hopen
  | closing verdict =>
    intro reply part answered
    have hshut : (leave ⟨setup, session, turnCount, depth, rounds, .closing verdict⟩ verdict
        reply).Flows .shut := by
      rcases reply with e | _
      · rfl
      · rcases verdict with e | _ | question <;> rfl
    rw [Claude.calls_of_close answered.of_outside]
    exact ⟨.shut, congrArg (· >>= some) (Flow.next_close h reply), hshut⟩
  | asked question =>
    cases h
    simp only [step, questioned]
    split
    · rfl
    · exact ⟨rfl, asks_answer _ _⟩
  | answering work =>
    obtain ⟨rfl, hasks⟩ := h
    exact Step.flows_inside_dialogue hasks (Dialogue.yields_true _)
      (fun work hwork _ => ⟨rfl, hwork⟩) fun prompt _ => rfl
  | «over» outcome => trivial

/-- A conversation that is over has no open stream. -/
theorem eq_shut_of_finished (h : c.Flows f) {outcome : Except Failure Unit}
    (hover : c.step = .finished outcome) : f = .shut := by
  obtain ⟨setup, session, turnCount, depth, rounds, phase⟩ := c
  cases phase with
  | prompting _ | starting _ | asked _ | «over» _ => exact h
  | answering work => exact h.1
  | listening | closing verdict => cases hover
  | reacting work => exact absurd hover (Step.inside_ne_finished _ _ _ _)

/-- **At most one stream is open in a conversation, and none is when it is over.** As far as a
conversation for a prompt has come, whatever the agent service, Discord and the engine reply, what
it has asked of the agent service is one stream after the other: each is closed before the next one
is opened, and also the last one when the conversation ends, with a failure or without. From a
stream that is left because a message asks a question no more is taken. -/
theorem streams_closed {prompt : String} {c' : Conversation} {os : List (Event Work.service)}
    {ps : List (Event Platform.service)} (goes : Step.Goes step (c.begin prompt) os c')
    (relayed : Work.Relayed s os ps) :
    ∃ xs : List Claude.Stream, Claude.calls ps = xs.flatMap Claude.Stream.record ∧
      (∀ x ∈ xs.dropLast, x.closed.isSome) ∧
      (∀ outcome, c'.step = .finished outcome → ∀ x ∈ xs, x.closed.isSome) ∧
      ∀ x ∈ xs, x.Attentive := by
  obtain ⟨f, halong, hflows⟩ := goes.flows relayed (fun _ _ h => step_flows h) rfl
  obtain ⟨xs, hstanding, hcalls⟩ := Claude.streams_of_flow halong
  refine ⟨xs, hcalls, hstanding.closed_dropLast, fun outcome hover => ?_, hstanding.attentive⟩
  rw [eq_shut_of_finished hflows hover] at hstanding
  exact hstanding.closed

/-- The text of a turn that asks for a message. -/
def askingText : Claude.Message := .assistant [.text "!discord exec 9"]

/-- Why a message cannot be had. -/
def noMessage : Failure := .service "NotFound" "gone"

/-- The agent asks for a message that cannot be had, and says nothing when it is told so. -/
def notFoundRun : List (Event Work.service) :=
  [.said "[AgentSession] session: NEW", Work.starts (newConversation.turn "hi"),
    Work.hears (some (Claude.heard askingText)), .said "[Parser] !discord exec 9", Work.closes,
    .asked (.outside (.chat (.fetch "7" "9"))) (.error noMessage),
    .said s!"[!discord exec] Error fetching message 9: {noMessage.message}",
    .said "[AgentSession] session: NEW",
    Work.starts (newConversation.turn (Prompt.notFound "9")), Work.hears none, Work.closes]

/-- How the agent service is used in `notFoundRun`. -/
def plainSettings : Claude.Settings := { model := "sonnet" }

/-- What is asked of the world to start a turn. -/
def opening (prompt : String) : List (Event Platform.service) :=
  [.said (Claude.startNote plainSettings (newConversation.turn prompt)),
    .asked (.claude (.query prompt (Claude.options plainSettings (newConversation.turn prompt))))
      (.ok ())]

/-- What is asked of the world in `notFoundRun`. -/
def notFoundWorld : List (Event Platform.service) :=
  .said "[AgentSession] session: NEW" :: (opening "hi" ++
    .asked (.claude .next) (.ok (some askingText)) :: .said "[Parser] !discord exec 9" ::
    .asked (.claude .close) (.ok ()) ::
    .asked (.discord (.knownChannel 7)) (.error noMessage) ::
    .said s!"[!discord exec] Error fetching message 9: {noMessage.message}" ::
    .said "[AgentSession] session: NEW" :: (opening (Prompt.notFound "9") ++
      [.asked (.claude .next) (.ok none), .asked (.claude .close) (.ok ())]))

/-- What is asked in `notFoundRun` is asked of the world. -/
theorem relayed_notFoundRun : Work.Relayed plainSettings notFoundRun notFoundWorld := by
  have hopening : ∀ prompt, Work.Answered plainSettings
      (.outside (.agent (.start (newConversation.turn prompt)))) (.ok ()) (opening prompt) :=
    fun prompt => .outside (.say (.ask _ (.done _)))
  have htext : Work.Answered plainSettings (.outside (.agent .next))
      (.ok (some (Claude.heard askingText))) [.asked (.claude .next) (.ok (some askingText))] :=
    .outside (.ask _ (.done _))
  have hend : Work.Answered plainSettings (.outside (.agent .next)) (.ok none)
      [.asked (.claude .next) (.ok none)] :=
    .outside (.ask _ (.done _))
  have hclose : Work.Answered plainSettings (.outside (.agent .close)) (.ok ())
      [.asked (.claude .close) (.ok ())] :=
    .outside (.ask _ (.done _))
  have hfetch : Work.Answered plainSettings (.outside (.chat (.fetch "7" "9"))) (.error noMessage)
      [.asked (.discord (.knownChannel 7)) (.error noMessage)] :=
    .outside (.ask _ (.done _))
  refine .said (.asked (hopening "hi") (.asked htext (.said (.asked hclose ?_))))
  exact .asked hfetch (.said (.said (.asked (hopening _) (.asked hend (.asked hclose .nil)))))

/-- Two streams are opened, the second one when the first one is closed. -/
theorem streams_closed_notFoundRun :
    ∃ c', Step.Goes step (newConversation.begin "hi") notFoundRun c' ∧
      c'.step = .finished (.ok ()) ∧ Work.Relayed plainSettings notFoundRun notFoundWorld ∧
      (Claude.calls notFoundWorld).length = 6 ∧
      ∃ xs : List Claude.Stream, Claude.calls notFoundWorld = xs.flatMap Claude.Stream.record ∧
        ∀ x ∈ xs, x.closed.isSome := by
  have hrun : Step.Runs step (newConversation.begin "hi") notFoundRun (.ok ()) := by
    refine .say rfl (.ask rfl _ (.ask rfl _ (.say rfl ?_)))
    -- The directives are carried out, and the turn is closed with its question.
    refine .silent rfl (.ask rfl _ (.silent rfl (.ask rfl _ (.say rfl ?_))))
    -- The answer is the prompt of the turn that hears nothing.
    exact .silent rfl (.say rfl (.ask rfl _ (.ask rfl _ (.ask rfl _ (.finished rfl)))))
  obtain ⟨c', hgoes, hover⟩ := Step.runs_iff_goes.mp hrun
  obtain ⟨xs, hcalls, -, hclosed, -⟩ := streams_closed hgoes relayed_notFoundRun
  exact ⟨c', hgoes, hover, relayed_notFoundRun, rfl, xs, hcalls, hclosed _ hover⟩

end Conversation

/-! ## Units of work -/

namespace Job

open Claude (Flow)

variable {j : Job} {f : Flow} {s : Claude.Settings}

/-- How far a unit of work has come with the agent service: only its conversation asks anything of
it. -/
def Flows (j : Job) (f : Flow) : Prop :=
  match j.phase with
  | .fetching _ work => f = .shut ∧ work.Asks Work.Request.IsApart
  | .recalling _ | .over _ => f = .shut
  | .talking c => c.Flows f
  | .tidying _ work => f = .shut ∧ work.Asks Work.Request.IsApart

/-- A unit of work begins with no stream open. -/
theorem flows_begin (settings : EngineSettings) (systemPrompt : Option String) (work : Work) :
    (begin settings systemPrompt work).Flows .shut := by
  unfold Flows begin
  cases work.item with
  | message m => exact ⟨rfl, Work.isApart_ofOutside (Attachment.asks_download _ _)⟩
  | reaction r => rfl

/-- Whatever a unit of work asks of the agent service may be asked then. -/
theorem step_keeps_flow (h : j.Flows f) : j.step.Flows s Flows f := by
  have htalked : ∀ outcome, (j.talked outcome).Flows .shut := fun outcome =>
    ⟨rfl, Work.isApart_ofOutside (Attachment.asks_cleanup _)⟩
  obtain ⟨settings, systemPrompt, work, files, phase⟩ := j
  cases phase with
  | fetching m download =>
    obtain ⟨rfl, hasks⟩ := h
    refine Step.flows_inside_dialogue hasks (Dialogue.yields_true _)
      (fun work hwork _ => ⟨rfl, hwork⟩) fun outcome _ => ?_
    cases outcome <;> rfl
  | recalling prompt =>
    cases h
    intro reply part answered
    have hcalls : Flow.along .shut (Claude.calls part) = some .shut := by
      rw [answered.calls_eq_nil trivial]
      rfl
    cases reply with
    | error e => exact ⟨.shut, hcalls, htalked _⟩
    | ok session => exact ⟨.shut, hcalls, rfl⟩
  | talking c =>
    refine (Conversation.step_flows h).inside (fun c f hc => hc) fun outcome hover => ?_
    rw [Conversation.eq_shut_of_finished h hover]
    exact htalked outcome
  | tidying outcome cleaning =>
    obtain ⟨rfl, hasks⟩ := h
    refine Step.flows_inside_dialogue hasks (Dialogue.yields_true _)
      (fun work hwork _ => ⟨rfl, hwork⟩) fun outcome' _ => ?_
    cases outcome' <;> rfl
  | «over» outcome => trivial

/-- A unit of work opens one stream after the other, and all of them are closed when its work is
over. -/
theorem streams_of_goes {settings : EngineSettings} {systemPrompt : Option String} {work : Work}
    {j' : Job} {os : List (Event Work.service)} {ps : List (Event Platform.service)}
    (goes : Step.Goes step (begin settings systemPrompt work) os j')
    (relayed : Work.Relayed s os ps) :
    ∃ xs : List Claude.Stream, Claude.calls ps = xs.flatMap Claude.Stream.record ∧
      (∀ x ∈ xs.dropLast, x.closed.isSome) ∧
      (∀ outcome, j'.phase = .over outcome → ∀ x ∈ xs, x.closed.isSome) ∧
      ∀ x ∈ xs, x.Attentive := by
  obtain ⟨f, halong, hflows⟩ :=
    goes.flows relayed (fun _ _ h => step_keeps_flow h) (flows_begin settings systemPrompt work)
  obtain ⟨xs, hstanding, hcalls⟩ := Claude.streams_of_flow halong
  refine ⟨xs, hcalls, hstanding.closed_dropLast, fun outcome hover => ?_, hstanding.attentive⟩
  have hshut : f = .shut := by
    unfold Flows at hflows
    rw [hover] at hflows
    exact hflows
  subst hshut
  exact hstanding.closed

end Job

end ChatRelay
