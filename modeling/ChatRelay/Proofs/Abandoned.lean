import ChatRelay.Proofs.Dispatch
import ChatRelay.Proofs.Lead
import ChatRelay.Proofs.Progress
import ChatRelay.Proofs.Turns
import Mathlib.Data.List.Forall2

/-!
# What stands behind a question

A turn that has asked a question is closed, and no more of its events are heard
(`Conversation.Heeds`). Nor is any more of the text carried out that asked it. So two outsides that
differ only in what the agent says behind its questions see the same conversation: two texts that
are the same up to the first question are worked on alike apart from the log
(`Conversation.mute_react`), and then everything that follows is alike
(`Conversation.Shadows.next`).

The main statement is `Conversation.no_effect_behind_question`.
-/

namespace ChatRelay

open Dialogue (Event)
open Work (started? heard?)

/-! ## Questions in a turn -/

namespace Work

/-- Whether the open turn has asked a question when this has happened too. -/
def stillAsked (asked : Bool) (o : Event service) : Bool :=
  (started? o).isNone && (asked || (heard? o).any fun e => e.question?.isSome)

/-- Whether the turn that was started last has asked a question. -/
def turnAsked (os : List (Event service)) : Bool := os.foldl stillAsked false

/-- What is asked neither of the agent nor of the store has no say in whether the turn has asked. -/
theorem stillAsked_of_isApart {q : Request} (hq : q.IsApart) (asked : Bool) (r : service.Reply q) :
    stillAsked asked (.asked q r) = asked := by
  cases q with
  | outside q =>
    cases q with
    | agent q => exact (hq : False).elim
    | _ => simp [stillAsked, started?, heard?]
  | _ => simp [stillAsked, started?, heard?]

end Work

namespace Step

variable {σ τ ρ υ : Type}

/-- A step that awaits no event of a turn that has asked, and that leads to states of which the same
holds, whatever the reply is. -/
def Heeds (heeds : Bool → σ → Prop) (asked : Bool) : Step Work.service σ ρ → Prop
  | .finished _ => True
  | .silent next => heeds asked next
  | .say _ next => heeds asked next
  | .ask q next =>
    (q = .outside (.agent .next) → asked = false) ∧
      ∀ r, heeds (Work.stillAsked asked (.asked q r)) (next r)

/-- A dialogue that asks nothing of the agent leaves the turn as it is. -/
theorem Heeds.inside {α : Type} {p : α → Prop} {work : Dialogue Work.service α} {asked : Bool}
    {heeds : Bool → τ → Prop} {wrap : Dialogue Work.service α → τ} {after : α → τ}
    (hasks : work.Asks Work.Request.IsApart) (hyields : work.Yields p)
    (hwrap : ∀ d, d.Asks Work.Request.IsApart → d.Yields p → heeds asked (wrap d))
    (hafter : ∀ a, p a → heeds asked (after a)) :
    (work.step.inside wrap after : Step Work.service τ υ).Heeds heeds asked := by
  cases work with
  | done a => exact hafter a hyields
  | say line rest => exact hwrap rest hasks hyields
  | ask q rest =>
    refine ⟨?_, fun r => ?_⟩
    · rintro rfl
      exact (hasks.1 : False).elim
    · rw [Work.stillAsked_of_isApart hasks.1]
      exact hwrap _ (hasks.2 r) (hyields r)

end Step

namespace Conversation

/-- A conversation that awaits no more events of a turn that has asked: if the turn has asked, the
work on the event does not go back to listening. -/
def Heeds (asked : Bool) (c : Conversation) : Prop :=
  match c.phase with
  | .listening => asked = false
  | .reacting work =>
    work.Asks Work.Request.IsApart ∧ work.Yields fun verdict => asked = true → verdict ≠ .ok none
  | .answering work => work.Asks Work.Request.IsApart
  | _ => True

/-- Once a turn has asked a question, it is closed. -/
theorem Heeds.step {c : Conversation} {asked : Bool} (h : c.Heeds asked) :
    c.step.Heeds Heeds asked := by
  obtain ⟨setup, session, turnCount, depth, rounds, phase⟩ := c
  cases phase with
  | prompting prompt =>
    simp only [Conversation.step, prompted]
    split <;> trivial
  | starting prompt =>
    constructor
    · rintro ⟨⟩
    · intro r
      cases r with
      | error e => trivial
      | ok _ => exact rfl
  | listening =>
    refine ⟨fun _ => h, fun r => ?_⟩
    change Except Failure (Option Agent.Event) at r
    rcases r with failure | _ | e
    · trivial
    · trivial
    -- The work on an event comes to no question only where the event asks none.
    · refine ⟨asks_react _ _ e, (yields_react _ _ e).mono fun verdict hverdict hasked hnone => ?_⟩
      have hquestion : e.question?.isSome = true := by
        rw [show asked = false from h] at hasked
        simpa [Work.stillAsked, started?, heard?] using hasked
      rw [← hverdict none hnone] at hquestion
      cases hquestion
  | reacting work =>
    refine Step.Heeds.inside h.1 h.2 (fun d hasks hyields => ⟨hasks, hyields⟩) fun verdict hv => ?_
    rcases verdict with failure | _ | question
    · trivial
    · exact Bool.eq_false_iff.mpr fun hasked => hv hasked rfl
    · trivial
  | closing verdict =>
    constructor
    · rintro ⟨⟩
    · intro r
      cases r with
      | error e => trivial
      | ok _ => rcases verdict with e | _ | question <;> trivial
  | asked question =>
    simp only [Conversation.step, questioned]
    split
    · trivial
    · exact asks_answer setup question
  | answering work =>
    exact Step.Heeds.inside h work.yields_true (fun d hasks _ => hasks) fun _ _ => trivial
  | «over» outcome => trivial

end Conversation

/-! ## Alike up to the first question -/

/-- Two events of the agent that ask a question, and that differ only in the lines of their texts
behind the first line that asks one. -/
structure Agent.Event.SameLead (e e' : Agent.Event) : Prop where
  asks : e.question?.isSome
  asks' : e'.question?.isSome
  /-- Up to the first question the texts are the same. -/
  lead : Response.lead? .closed (Text.splitLines e.text) =
    Response.lead? .closed (Text.splitLines e'.text)
  rest : e' = { e with text := e'.text }

namespace Work

/-- Two things that happen which are the same, or two events of the agent that are heard and differ
only behind a question. -/
inductive Alike : Event service → Event service → Prop where
  | same (o : Event service) : Alike o o
  | lead {e e' : Agent.Event} (same : e.SameLead e') : Alike (hears (some e)) (hears (some e'))

/-- What is asked of the chat platform, where something is. -/
def call? : Event service → Option Chat.Request
  | .asked (.outside (.chat q)) _ => some q
  | _ => none

variable {o o' : Event service}

/-- Being alike goes both ways. -/
theorem Alike.symm (h : Alike o o') : Alike o' o := by
  cases h with
  | same => exact .same _
  | @lead e e' same =>
    refine .lead ⟨same.asks', same.asks, same.lead.symm, ?_⟩
    rw [same.rest]

/-- What happens alike asks the same of the chat platform. -/
theorem Alike.call?_eq (h : Alike o o') : call? o = call? o' := by
  cases h <;> rfl

/-- What happens alike starts the same turn. -/
theorem Alike.started?_eq (h : Alike o o') : started? o = started? o' := by
  cases h <;> rfl

/-- Only events of the agent can differ, so every other reply is the same. -/
theorem Alike.eq_of_isApart {q : Request} (hq : q.IsApart) {r r' : service.Reply q}
    (h : Alike (.asked q r) (.asked q r')) : r = r' := by
  cases h with
  | same => rfl
  | lead => exact (hq : False).elim

/-- Events that differ only behind a question have asked alike. -/
theorem Alike.stillAsked_eq (h : Alike o o') (asked : Bool) :
    stillAsked asked o = stillAsked asked o' := by
  cases h with
  | same => rfl
  | lead same => simp [stillAsked, started?, heard?, hears, same.asks, same.asks']

variable {os os' : List (Event service)}

/-- What is read off two events that are alike is read off two lists of them. -/
theorem filterMap_eq_of_alike {γ : Type} {f : Event service → Option γ}
    (hf : ∀ o o', Alike o o' → f o = f o') (h : List.Forall₂ Alike os os') :
    os.filterMap f = os'.filterMap f := by
  induction h with
  | nil => rfl
  | cons head _ ih => rw [List.filterMap_cons, List.filterMap_cons, hf _ _ head, ih]

/-- Records that are alike agree on whether the turn has asked. -/
theorem turnAsked_eq_of_alike (h : List.Forall₂ Alike os os') : turnAsked os = turnAsked os' := by
  have hfold : ∀ asked, os.foldl stillAsked asked = os'.foldl stillAsked asked := by
    induction h with
    | nil => exact fun _ => rfl
    | cons head _ ih =>
      intro asked
      rw [List.foldl_cons, List.foldl_cons, head.stillAsked_eq, ih]
  exact hfold false

end Work

namespace Conversation

/-- A text that can be read is worked on by carrying out its directives. -/
theorem mute_carryOut (place : Place) {text : String} {ds : List Directive}
    (hread : (Response.read text).directives = .ok ds) :
    (carryOut place text).mute = ((Work.ofChat (Outbox.dispatch place ds)).bind fun question =>
      .done (.ok question)).mute := by
  have hplayed : carryOut place text = (Dialogue.notes (Response.read text).notes).bind fun _ =>
      (Work.ofChat (Outbox.dispatch place ds)).bind fun question => .done (.ok question) := by
    simp only [carryOut, hread]
    rfl
  rw [hplayed, Dialogue.mute_bind, Dialogue.mute_notes]
  rfl

/-- Two texts that are the same up to the first question are worked on alike apart from the log. -/
theorem mute_carryOut_eq (place : Place) {text text' : String} {question question' : Feedback}
    (hq : (Response.read text).question? = some question)
    (hq' : (Response.read text').question? = some question')
    (hlead : Response.lead? .closed (Text.splitLines text) =
      Response.lead? .closed (Text.splitLines text')) :
    (carryOut place text).mute = (carryOut place text').mute := by
  obtain ⟨before, d, rest, rest', hread, hread', hquiet, hd⟩ :=
    Response.directives_of_lead_eq hq hq' hlead
  rw [mute_carryOut place hread, mute_carryOut place hread',
    Outbox.dispatch_of_question hquiet hd, Outbox.dispatch_of_question hquiet hd]

/-- An event that asks a question has its text carried out. -/
theorem heed_of_question (place : Place) {e : Agent.Event} (h : e.question?.isSome) :
    heed place e = carryOut place e.text ∧
      ∃ question, (Response.read e.text).question? = some question := by
  unfold Agent.Event.question? at h
  unfold heed
  cases hkind : e.kind with
  | session | result =>
    rw [hkind] at h
    cases h
  | text =>
    rw [hkind] at h
    cases hblank : Text.allBlank e.text with
    | true =>
      rw [hblank] at h
      cases h
    | false =>
      rw [hblank] at h
      exact ⟨rfl, Option.isSome_iff_exists.mp h⟩

/-- Two events that differ only behind a question are worked on alike apart from the log. -/
theorem mute_react (place : Place) (known : Option String) {e e' : Agent.Event}
    (h : e.SameLead e') : (react place known e).mute = (react place known e').mute := by
  obtain ⟨hheed, question, hq⟩ := heed_of_question place h.asks
  obtain ⟨hheed', question', hq'⟩ := heed_of_question place h.asks'
  have hreport : reportSession known e' = reportSession known e := by
    rw [h.rest]
    rfl
  have heq : (heed place e).mute = (heed place e').mute := by
    rw [hheed, hheed']
    exact mute_carryOut_eq place hq hq' h.lead
  unfold react
  rw [hreport]
  refine Dialogue.mute_bind_congr fun reported => ?_
  cases reported with
  | error failure => rfl
  | ok _ => exact heq

/-- Two conversations that are the same, or that work on events alike apart from the log. -/
inductive Alike : Conversation → Conversation → Prop where
  | same (c : Conversation) : Alike c c
  | reacting (c : Conversation) {work work' : Dialogue Work.service Verdict}
      (mute : work.mute = work'.mute) :
      Alike { c with phase := .reacting work } { c with phase := .reacting work' }

/-- Conversations that are alike know the same session. -/
theorem Alike.session_eq {c c' : Conversation} (h : c.Alike c') : c.session = c'.session := by
  cases h <;> rfl

/-- Conversations that are alike are over alike: neither is over while it works on an event. -/
theorem Alike.over_iff {c c' : Conversation} (h : c.Alike c') (outcome : Except Failure Unit) :
    c.phase = .over outcome ↔ c'.phase = .over outcome := by
  cases h with
  | same => rfl
  | reacting => exact ⟨nofun, nofun⟩

/-- Only a conversation that listens awaits the next event of a turn. -/
theorem eq_hear_of_step {c : Conversation} {asked : Bool} (h : c.Heeds asked)
    {next : Work.service.Reply (.outside (.agent .next)) → Conversation}
    (hstep : c.step = .ask (.outside (.agent .next)) next) : next = c.hear := by
  obtain ⟨setup, session, turnCount, depth, rounds, phase⟩ := c
  have hinside : ∀ {α : Type} {work : Dialogue Work.service α}
      {wrap : Dialogue Work.service α → Conversation} {after : α → Conversation},
      work.Asks Work.Request.IsApart →
      (work.step.inside wrap after : Step Work.service Conversation (Except Failure Unit)) ≠
        .ask (.outside (.agent .next)) next := by
    intro α work wrap after hasks hinner
    cases work with
    | done a => cases hinner
    | say line rest => cases hinner
    | ask q rest =>
      cases hinner
      exact hasks.1
  cases phase with
  | prompting prompt =>
    simp only [step, prompted] at hstep
    split at hstep <;> cases hstep
  | starting prompt => cases hstep
  | listening =>
    cases hstep
    rfl
  | reacting work => exact absurd hstep (hinside h.1)
  | closing verdict => cases hstep
  | asked question =>
    simp only [step, questioned] at hstep
    split at hstep <;> cases hstep
  | answering work => exact absurd hstep (hinside h)
  | «over» outcome => cases hstep

/-- Replies that are alike lead to conversations that are alike. -/
theorem Heeds.alike_next {c : Conversation} {asked : Bool} (h : c.Heeds asked)
    {q : Work.service.Request} {next : Work.service.Reply q → Conversation}
    (hstep : c.step = .ask q next) {r r' : Work.service.Reply q}
    (hr : Work.Alike (.asked q r) (.asked q r')) : (next r).Alike (next r') := by
  cases hr with
  | same => exact .same _
  | @lead e e' same =>
    cases eq_hear_of_step h hstep
    have hsession : e'.reported? = e.reported? := by
      rw [same.rest]
      rfl
    have hreacting := Alike.reacting (c.hear (.ok (some e)))
      (mute_react c.setup.place c.session same)
    simp only [hear, hsession] at hreacting ⊢
    exact hreacting

/-! ## Two runs -/

/-- A conversation that hears no more of a turn that has asked goes on like that. -/
theorem Heeds.advance {x : Progress Work.service Conversation}
    (h : x.state.Heeds (Work.turnAsked x.asked)) (responder : Work.service.Responder) :
    (x.next Conversation.step responder).state.Heeds
      (Work.turnAsked (x.next Conversation.step responder).asked) := by
  have hnext := h.step
  cases hstep : x.state.step with
  | finished r =>
    rw [Progress.next_of_finished hstep]
    exact h
  | silent c =>
    rw [hstep] at hnext
    rw [Progress.next_of_silent hstep]
    exact hnext
  | say line c =>
    rw [hstep] at hnext
    rw [Progress.next_of_say hstep, Progress.asked_said]
    exact hnext
  | ask q next =>
    rw [hstep] at hnext
    rw [Progress.next_of_ask hstep, Progress.asked_asked, Work.turnAsked, List.foldl_append]
    exact hnext.2 _

/-- Two conversations that have come so far that they are alike, and have asked alike. -/
structure Shadows (x y : Progress Work.service Conversation) : Prop where
  state : x.state.Alike y.state
  asked : List.Forall₂ Work.Alike x.asked y.asked
  heeds : x.state.Heeds (Work.turnAsked x.asked)

end Conversation

/-- Where what was asked before is alike, two responders reply alike to every request, except to the
one for the next event of a turn that has asked a question. -/
def Work.Agree (alike : Event service → Event service → Prop)
    (responder responder' : service.Responder) : Prop :=
  ∀ os os', List.Forall₂ alike os os' → ∀ q,
    (q = .outside (.agent .next) → turnAsked os = false) →
      alike (.asked q (responder os q)) (.asked q (responder' os' q))

/-- Agreement goes both ways. -/
theorem Work.Agree.symm {responder responder' : service.Responder}
    (h : Agree Alike responder responder') : Agree Alike responder' responder := by
  intro os os' halike q hq
  have hflipped : List.Forall₂ Alike os' os := List.Forall₂.flip (halike.imp fun _ _ ho => ho.symm)
  rw [turnAsked_eq_of_alike halike] at hq
  exact (h os' os hflipped q hq).symm

namespace Conversation

variable {responder responder' : Work.service.Responder}

/-- Two conversations that are the same take the same step. -/
theorem Shadows.of_same (hagree : Work.Agree Work.Alike responder responder') {c : Conversation}
    {os os' : List (Event Work.service)} (h : Shadows ⟨c, os⟩ ⟨c, os'⟩) :
    Shadows (Progress.next step responder ⟨c, os⟩) (Progress.next step responder' ⟨c, os'⟩) := by
  have hheeds := Heeds.advance h.heeds responder
  have hnext := Heeds.step h.heeds
  cases hstep : c.step with
  | finished r =>
    rw [Progress.next_of_finished hstep] at hheeds ⊢
    rw [Progress.next_of_finished hstep]
    exact h
  | silent next =>
    rw [Progress.next_of_silent hstep] at hheeds ⊢
    rw [Progress.next_of_silent hstep]
    exact ⟨.same next, h.asked, hheeds⟩
  | say line next =>
    rw [Progress.next_of_say hstep] at hheeds ⊢
    rw [Progress.next_of_say hstep]
    refine ⟨.same next, ?_, hheeds⟩
    rw [Progress.asked_said, Progress.asked_said]
    exact h.asked
  | ask q next =>
    have hreply := hagree _ _ h.asked q fun hq => by
      rw [hstep] at hnext
      exact hnext.1 hq
    rw [Progress.next_of_ask hstep] at hheeds ⊢
    rw [Progress.next_of_ask hstep]
    refine ⟨Heeds.alike_next h.heeds hstep hreply, ?_, hheeds⟩
    rw [Progress.asked_asked, Progress.asked_asked]
    exact List.rel_append h.asked (.cons hreply .nil)

/-- The step of a conversation that works on an event. -/
theorem step_reacting (c : Conversation) (work : Dialogue Work.service Verdict) :
    step { c with phase := .reacting work } =
      work.step.inside (fun work => { c with phase := .reacting work }) c.judge := rfl

/-- Two conversations that work on events alike take the same step, where neither has log lines to
write first. -/
theorem Shadows.of_settled (hagree : Work.Agree Work.Alike responder responder')
    {c : Conversation} {work work' : Dialogue Work.service Verdict}
    {os os' : List (Event Work.service)}
    (h : Shadows ⟨{ c with phase := .reacting work }, os⟩
      ⟨{ c with phase := .reacting work' }, os'⟩)
    (hmute : work.mute = work'.mute) (hwork : ∀ line rest, work ≠ .say line rest)
    (hwork' : ∀ line rest, work' ≠ .say line rest) :
    Shadows (Progress.next step responder ⟨{ c with phase := .reacting work }, os⟩)
      (Progress.next step responder' ⟨{ c with phase := .reacting work' }, os'⟩) := by
  have hheeds := Heeds.advance h.heeds responder
  have hstep := step_reacting c work
  have hstep' := step_reacting c work'
  match work, work' with
  | .say line rest, _ => exact absurd rfl (hwork line rest)
  | _, .say line rest => exact absurd rfl (hwork' line rest)
  | .done verdict, .ask q rest => cases hmute
  | .ask q rest, .done verdict => cases hmute
  | .done verdict, .done verdict' =>
    cases hmute
    rw [Progress.next_of_silent hstep] at hheeds ⊢
    rw [Progress.next_of_silent hstep']
    exact ⟨.same _, h.asked, hheeds⟩
  | .ask q rest, .ask q' rest' =>
    obtain ⟨rfl, hrests⟩ := Dialogue.ask.inj hmute
    have hrest : ∀ r, (rest r).mute = (rest' r).mute := congrFun (eq_of_heq hrests)
    -- The answers may differ only for what is asked of the agent.
    have hapart : q.IsApart := h.heeds.1.1
    have hreply := hagree _ _ h.asked q fun hq => by
      rw [hq] at hapart
      exact (hapart : False).elim
    rw [Progress.next_of_ask hstep] at hheeds ⊢
    rw [Progress.next_of_ask hstep', ← hreply.eq_of_isApart hapart]
    refine ⟨.reacting c (hrest _), ?_, hheeds⟩
    rw [Progress.asked_asked, Progress.asked_asked]
    exact List.rel_append h.asked (.cons (.same _) .nil)

/-- Conversations that are alike take steps until they are alike again. -/
theorem Shadows.next (hagree : Work.Agree Work.Alike responder responder')
    {x y : Progress Work.service Conversation} (h : Shadows x y) :
    ∃ m, Shadows (x.next step responder) ((Progress.next step responder')^[m] y) := by
  have hheeds := Heeds.advance h.heeds responder
  obtain ⟨state, os⟩ := x
  obtain ⟨state', os'⟩ := y
  obtain ⟨halike, hasked, hheeds'⟩ := h
  cases halike with
  | same => exact ⟨1, Shadows.of_same hagree ⟨.same _, hasked, hheeds'⟩⟩
  | @reacting c work work' hmute =>
    -- The first conversation writes one line, or else the second one writes all its lines first.
    by_cases hsay : ∃ line rest, work = .say line rest
    · obtain ⟨line, rest, rfl⟩ := hsay
      rw [Progress.next_of_say (step_reacting c _)] at hheeds ⊢
      refine ⟨0, .reacting c hmute, ?_, hheeds⟩
      rw [Progress.asked_said]
      exact hasked
    · obtain ⟨m, settled, os'', hm, hsame, hsettled, hlast⟩ :=
        Progress.settle (step_reacting c) responder' work' os'
      rw [← hsettled] at hmute
      rw [← hsame] at hasked
      refine ⟨m + 1, ?_⟩
      rw [Function.iterate_succ_apply', hm]
      exact Shadows.of_settled hagree ⟨.reacting c hmute, hasked, hheeds'⟩ hmute
        (fun line rest hwork => hsay ⟨line, rest, hwork⟩) hlast

/-- What two conversations have in common: what they asked of the chat platform, the turns that
they started, the session that they know, and how they are over, if they are. -/
structure SameSoFar (x y : Progress Work.service Conversation) : Prop where
  calls : x.record.filterMap Work.call? = y.record.filterMap Work.call?
  turns : x.record.filterMap started? = y.record.filterMap started?
  session : x.state.session = y.state.session
  outcome : ∀ outcome, x.state.phase = .over outcome ↔ y.state.phase = .over outcome

/-- Conversations that shadow each other have all that in common. -/
theorem Shadows.sameSoFar {x y : Progress Work.service Conversation} (h : Shadows x y) :
    SameSoFar x y where
  calls := by
    rw [← Progress.filterMap_asked (fun _ => rfl), ← Progress.filterMap_asked (fun _ => rfl)]
    exact Work.filterMap_eq_of_alike (fun _ _ => Work.Alike.call?_eq) h.asked
  turns := by
    rw [← Progress.filterMap_asked (fun _ => rfl), ← Progress.filterMap_asked (fun _ => rfl)]
    exact Work.filterMap_eq_of_alike (fun _ _ => Work.Alike.started?_eq) h.asked
  session := h.state.session_eq
  outcome := h.state.over_iff

/-- What two conversations have in common they have in either order. -/
theorem SameSoFar.symm {x y : Progress Work.service Conversation} (h : SameSoFar x y) :
    SameSoFar y x :=
  ⟨h.calls.symm, h.turns.symm, h.session.symm, fun outcome => (h.outcome outcome).symm⟩

/-- For the same prompt two conversations are alike after some steps, as far as the outsides agree
apart from what stands behind a question. -/
theorem shadows_of_agree (hagree : Work.Agree Work.Alike responder responder') (c : Conversation)
    (prompt : String) (n : ℕ) :
    ∃ m, Shadows (.after step responder (c.begin prompt) n)
      (.after step responder' (c.begin prompt) m) :=
  Progress.follow (fun _ _ => Shadows.next hagree) ⟨.same _, .nil, trivial⟩ n

/-- A conversation takes the same step, as far as the outsides agree apart from what a turn that has
asked a question says next. -/
theorem next_eq_of_agree (hagree : Work.Agree Eq responder responder')
    {x : Progress Work.service Conversation} (h : x.state.Heeds (Work.turnAsked x.asked)) :
    x.next step responder = x.next step responder' := by
  have hnext := h.step
  cases hstep : x.state.step with
  | finished r => rw [Progress.next_of_finished hstep, Progress.next_of_finished hstep]
  | silent c => rw [Progress.next_of_silent hstep, Progress.next_of_silent hstep]
  | say line c => rw [Progress.next_of_say hstep, Progress.next_of_say hstep]
  | ask q next =>
    rw [hstep] at hnext
    have hsame : List.Forall₂ Eq x.asked x.asked := List.forall₂_same.mpr fun _ _ => rfl
    have hreply : responder x.asked q = responder' x.asked q :=
      eq_of_heq (Event.asked.inj (hagree _ _ hsame q hnext.1)).2
    rw [Progress.next_of_ask hstep, Progress.next_of_ask hstep, hreply]

/-- As far as the outsides agree apart from what a turn that has asked a question says next, a
conversation goes the same way, and hears no more of such a turn. -/
theorem after_eq_of_agree (hagree : Work.Agree Eq responder responder') (c : Conversation)
    (prompt : String) (n : ℕ) :
    Progress.after step responder (c.begin prompt) n =
        Progress.after step responder' (c.begin prompt) n ∧
      (Progress.after step responder (c.begin prompt) n).state.Heeds
        (Work.turnAsked (Progress.after step responder (c.begin prompt) n).asked) := by
  induction n with
  | zero => exact ⟨rfl, trivial⟩
  | succ n ih =>
    obtain ⟨hsame, hheeds⟩ := ih
    simp only [Progress.after, Function.iterate_succ_apply'] at hsame hheeds ⊢
    rw [← hsame]
    exact ⟨next_eq_of_agree hagree hheeds, Heeds.advance hheeds responder⟩

/-- **What a turn says behind its question has no effect.** Take two outsides that agree, except
for the events of a turn behind one that asks a question, and for the lines of that event's text
behind the line that asks. Then as far as the conversation with one of them comes, the conversation
with the other one comes as well: with the same calls to the chat platform and the same turns, the
same session, and the same end. Where the texts are the same too, so is everything, with the log. -/
theorem no_effect_behind_question (c : Conversation) (prompt : String)
    (responder responder' : Work.service.Responder) :
    let first := Progress.after step responder (c.begin prompt)
    let second := Progress.after step responder' (c.begin prompt)
    (Work.Agree Work.Alike responder responder' →
      (∀ n, ∃ m, SameSoFar (first n) (second m)) ∧ ∀ m, ∃ n, SameSoFar (first n) (second m)) ∧
    (Work.Agree Eq responder responder' → ∀ n, first n = second n) := by
  intro first second
  refine ⟨fun hagree => ⟨fun n => ?_, fun m => ?_⟩, fun hagree n => ?_⟩
  · obtain ⟨m, hm⟩ := shadows_of_agree hagree c prompt n
    exact ⟨m, hm.sameSoFar⟩
  · obtain ⟨n, hn⟩ := shadows_of_agree hagree.symm c prompt m
    exact ⟨n, hn.sameSoFar.symm⟩
  · exact (after_eq_of_agree hagree c prompt n).1

/-- An outside with an agent whose first turn writes a text, and says this behind its question. Its
second turn says nothing. There is one message, and everything else fails. -/
def scripted (text : String) (behind : Work.service.Reply (.outside (.agent .next))) :
    Work.service.Responder
  | os, .outside (.agent .next) =>
    if (os.filterMap started?).length < 2 then
      if Work.turnAsked os then behind else .ok (some { kind := .text, text })
    else .ok none
  | _, .outside (.agent (.start _)) => .ok ()
  | _, .outside (.agent .close) => .ok ()
  | _, .outside (.chat (.fetch _ id)) => .ok { (default : Message) with id, content := "go on" }
  | _, _ => .error (.service "" "")

section Scripted

variable {text text' : String} {behind behind' : Work.service.Reply (.outside (.agent .next))}

/-- Only the events of a turn hang on the script. -/
theorem scripted_eq_of_ne {q : Work.service.Request} (hq : q ≠ .outside (.agent .next))
    (os os' : List (Event Work.service)) :
    scripted text behind os q = scripted text' behind' os' q := by
  match q with
  | .outside (.agent .next) => exact absurd rfl hq
  | .outside (.agent (.start _)) | .outside (.agent .close) => rfl
  | .outside (.chat q) => cases q <;> rfl
  | .outside (.disk _) | .outside (.web _) | .outside .freshName | .outside (.store _) => rfl
  | .recall | .report _ => rfl

/-- Outsides whose texts are the same up to the first question agree up to there. -/
theorem agree_scripted
    (h : Agent.Event.SameLead { kind := .text, text } { kind := .text, text := text' }) :
    Work.Agree Work.Alike (scripted text behind) (scripted text' behind') := by
  intro os os' halike q hq
  by_cases hnext : q = .outside (.agent .next)
  · subst hnext
    have hturns := Work.filterMap_eq_of_alike (fun _ _ => Work.Alike.started?_eq) halike
    have hasked : Work.turnAsked os = false := hq rfl
    have hasked' : Work.turnAsked os' = false := Work.turnAsked_eq_of_alike halike ▸ hasked
    simp only [scripted, ← hturns, hasked, hasked', Bool.false_eq_true, if_false]
    split
    · exact .lead h
    · exact .same _
  · rw [scripted_eq_of_ne hnext os os']
    exact .same _

/-- Outsides with the same text agree up to the events behind it. -/
theorem agree_scripted_of_same_text :
    Work.Agree Eq (scripted text behind) (scripted text behind') := by
  intro os os' hsame q hq
  rw [List.forall₂_eq_eq_eq] at hsame
  subst hsame
  by_cases hnext : q = .outside (.agent .next)
  · subst hnext
    simp only [scripted, hq rfl, Bool.false_eq_true, if_false]
  · rw [scripted_eq_of_ne hnext os os]

end Scripted

/-- Behind the question of a text there is another command, and behind that the turn fails. Neither
has an effect. -/
theorem no_effect_behind_question_scripted :
    let plain := scripted "!discord exec 9" (.ok none)
    let longer := scripted "!discord exec 9\n!discord send hi" (.error (.service "" ""))
    let failing := scripted "!discord exec 9" (.error (.service "" ""))
    let first := Progress.after step plain (newConversation.begin "hi")
    Work.Agree Work.Alike plain longer ∧ Work.Agree Eq plain failing ∧
      (∃ m, SameSoFar (first 20) (.after step longer (newConversation.begin "hi") m)) ∧
      first 20 = .after step failing (newConversation.begin "hi") 20 ∧
      (first 20).record.filterMap Work.call? = [.fetch "7" "9"] ∧
      ((first 20).record.filterMap started?).length = 2 := by
  intro plain longer failing first
  have hlead : Agent.Event.SameLead { kind := .text, text := "!discord exec 9" }
      { kind := .text, text := "!discord exec 9\n!discord send hi" } :=
    ⟨by decide, by decide, by decide, rfl⟩
  have halike : Work.Agree Work.Alike plain longer := agree_scripted hlead
  have hsame : Work.Agree Eq plain failing := agree_scripted_of_same_text
  obtain ⟨hshorter, -⟩ := (no_effect_behind_question newConversation "hi" plain longer).1 halike
  have hcalls : (first 20).record.filterMap Work.call? = [.fetch "7" "9"] := by decide +kernel
  have hturns : ((first 20).record.filterMap started?).length = 2 := by decide +kernel
  exact ⟨halike, hsame, hshorter 20,
    (no_effect_behind_question newConversation "hi" plain failing).2 hsame 20, hcalls, hturns⟩

end Conversation

end ChatRelay
