import ChatRelay.Proofs.Calls
import ChatRelay.Proofs.Desk
import ChatRelay.Proofs.Exchange
import Mathlib.Data.List.Induction

/-!
# What a worker is doing

The deeds of a worker say what it is doing: the unit of work that it is at, the last event of the
agent that it heard, and what it has asked of the chat platform since then. `Doing.of` reads that
off the deeds, and `Doing.Stage.Allows` says what the chat platform may be asked by then: what the
directives of the event ask, or what the question of the event asks after the turn was closed.
-/

namespace ChatRelay

open Dialogue (Event)

/-! ## Deeds -/

/-- The deed that an occurrence is, if it is one of this worker of this channel. -/
def Occurrence.deedOf? (i : Nat) (c : String) : Occurrence → Option Deed
  | .worked j channel deed => if j = i ∧ channel = c then some deed else none
  | _ => none

/-- An occurrence is a deed of this worker of this channel where that worker did it there. -/
theorem Occurrence.deedOf?_eq_some_iff {i : Nat} {c : String} {o : Occurrence} {deed : Deed} :
    o.deedOf? i c = some deed ↔ o = .worked i c deed := by
  cases o with
  | worked j channel deed' =>
    by_cases h : j = i ∧ channel = c
    · obtain ⟨rfl, rfl⟩ := h
      simp [deedOf?]
    · rw [deedOf?, if_neg h]
      refine ⟨nofun, fun he => absurd ?_ h⟩
      cases he
      exact ⟨rfl, rfl⟩
  | received _ _ _ | reset _ _ => exact ⟨nofun, nofun⟩

/-- What a worker of a channel has done so far. -/
def Situation.deedsOf (s : Situation) (i : Nat) (c : String) : List Deed :=
  s.record.filterMap (Occurrence.deedOf? i c)

/-- The deeds of a worker of a channel are on the record of the channel. -/
theorem Situation.deedsOf_eq (s : Situation) (i : Nat) (c : String) :
    s.deedsOf i c = (s.recordOf c).filterMap (Occurrence.deedOf? i c) := by
  rw [recordOf, List.filterMap_filter]
  refine List.filterMap_congr fun o _ => ?_
  cases hdeed : o.deedOf? i c with
  | none => rw [ite_self]
  | some deed =>
    rw [Occurrence.deedOf?_eq_some_iff.mp hdeed]
    simp [Occurrence.concerns]

/-- The call of the chat platform that came to its end with a deed. -/
def Deed.chatCall? : Deed → Option (Event Chat.service)
  | .heard (.chat q) reply => some (.asked q reply)
  | _ => none

/-! ## Reasons -/

/-- The place of a unit of work. -/
def Work.place (work : Work) : Place :=
  Place.of work.item.channelId work.item.channelName work.profile.logChannel

/-- What the chat platform is asked for an event of the agent: what the directives of its text
ask. -/
def Agent.Event.Calls (e : Agent.Event) (place : Place) : Work.Allowance := fun talk q =>
  ∃ ds os, e.kind = .text ∧ (Response.read e.text).directives = .ok ds ∧
    (Outbox.dispatch place ds).AsksAfter os q ∧ talk = os.filter Event.isAsked

/-- What the chat platform is asked for a question of the agent. -/
def Feedback.Calls (place : Place) : Feedback → Work.Allowance
  | .history request, talk, q =>
    ∃ os, (History.answer place request).AsksAfter os q ∧ talk = os.filter Event.isAsked
  | .exec messageId, talk, q =>
    ∃ os, (Outbox.fetchForExec place messageId).AsksAfter os q ∧ talk = os.filter Event.isAsked

namespace Conversation

/-- The work on a text asks the chat platform what the directives of the text ask. -/
theorem within_carryOut {place : Place} {e : Agent.Event} (hkind : e.kind = .text) :
    Work.Within (e.Calls place) [] (carryOut place e.text) := by
  intro os q h
  have hnotes : (Dialogue.notes (Response.read e.text).notes :
      Dialogue Work.service Unit).Asks Work.Request.IsElsewhere := Dialogue.asks_notes _
  rcases Dialogue.asksAfter_bind h with hfirst | ⟨first, second, _, rfl, hfirst, hsecond⟩
  · exact (hfirst.asks hnotes).elim
  · rw [List.filterMap_append, Work.chatCalls_of_plays hnotes hfirst]
    cases hds : (Response.read e.text).directives with
    | error refusal =>
      rw [hds] at hsecond
      cases hsecond
    | ok ds =>
      rw [hds] at hsecond
      obtain ⟨os', q', hq, hcalls, hos⟩ :=
        Work.asksAfter_ofChat (Dialogue.asksAfter_of_bind_done hsecond)
      cases hq
      exact ⟨ds, os', hkind, hds, hcalls, hos⟩

/-- An event asks of the chat platform what its calls allow. -/
theorem within_heed (place : Place) (e : Agent.Event) :
    Work.Within (e.Calls place) [] (heed place e) := by
  unfold heed
  split
  · exact Work.within_of_elsewhere trivial
  · split <;> exact Work.within_of_elsewhere trivial
  · rename_i hkind
    split
    · exact Work.within_of_elsewhere trivial
    · exact within_carryOut hkind

/-- The work on an event asks the chat platform what the event asks. -/
theorem within_react (place : Place) (known : Option String) (e : Agent.Event) :
    Work.Within (e.Calls place) [] (react place known e) := by
  intro os q h
  have hreport := asks_reportSession (p := Work.Request.IsElsewhere) (fun _ => trivial) known e
  rcases Dialogue.asksAfter_bind h with hfirst | ⟨first, second, reported, rfl, hfirst, hsecond⟩
  · exact (hfirst.asks hreport).elim
  · rw [List.filterMap_append, Work.chatCalls_of_plays hreport hfirst]
    cases reported with
    | error failure => cases hsecond
    | ok _ => exact within_heed place e second q hsecond

/-- The work on a question asks the chat platform what the question asks. -/
theorem within_answer (setup : Setup) (question : Feedback) :
    Work.Within (question.Calls setup.place) [] (Work.ofChat (answer setup question)) := by
  intro os q h
  obtain ⟨os', q', hq, hcalls, hos⟩ := Work.asksAfter_ofChat h
  cases hq
  rw [List.nil_append, hos]
  cases question with
  | history request => exact ⟨os', hcalls, rfl⟩
  | exec messageId =>
    rcases Dialogue.asksAfter_bind hcalls with hfirst | ⟨first, second, m, -, -, hsecond⟩
    · exact ⟨os', hfirst, rfl⟩
    · cases m <;> cases hsecond

end Conversation

/-! ## What the deeds say -/

/-- How far a turn of the agent has come. -/
inductive Doing.Stage where
  /-- No event of it was heard yet. -/
  | beginning
  /-- This event was heard last. -/
  | heeding (e : Agent.Event)
  /-- The turn was closed, and this event was the last one. -/
  | closed (e : Agent.Event)

/-- What a worker is doing. -/
structure Doing where
  /-- The unit of work that it is at. -/
  work : Option Work := none
  stage : Doing.Stage := .beginning
  /-- What the chat platform was asked for the last event, or since the turn was closed. -/
  talk : List (Event Chat.service) := []
  /-- The unit of work that has failed, until the next one is begun. -/
  failed : Option Work := none

namespace Doing

/-- What the chat platform may be asked at this stage. -/
def Stage.Allows (place : Place) : Stage → Work.Allowance
  | .beginning, _, _ => False
  | .heeding e, talk, q => e.Calls place talk q
  | .closed e, talk, q => ∃ question, e.question? = some question ∧ question.Calls place talk q

/-- The stage after the turn was closed. -/
def Stage.close : Stage → Stage
  | .heeding e => .closed e
  | stage => stage

/-- A turn is started. -/
def ask (x : Doing) : Outside.Request → Doing
  | .agent (.start _) => { x with stage := .beginning, talk := [] }
  | _ => x

/-- An event of the turn is heard, or it is closed, or the chat platform has replied. -/
def hear (x : Doing) : (q : Outside.Request) → Outside.service.Reply q → Doing
  | .agent .next, .ok (some (e : Agent.Event)) => { x with stage := .heeding e, talk := [] }
  | .agent .close, _ => { x with stage := x.stage.close, talk := [] }
  | .chat q, reply => { x with talk := x.talk ++ [.asked q reply] }
  | _, _ => x

/-- What a worker is doing after one more deed. -/
def after (x : Doing) : Deed → Doing
  | .took work => { work := some work }
  | .said _ => x
  | .asked q => x.ask q
  | .heard q reply => x.hear q reply
  | .ended true => { failed := x.work }
  | .ended false => {}
  | .left => {}

/-- What a worker is doing that has done all this. -/
def of (deeds : List Deed) : Doing := deeds.foldl after {}

/-- More deeds go on with what the deeds before them have left to be done. -/
theorem of_append (deeds deeds' : List Deed) :
    of (deeds ++ deeds') = deeds'.foldl after (of deeds) :=
  List.foldl_append

/-- The last deed goes on with what the others have left to be done. -/
theorem of_concat (deeds : List Deed) (deed : Deed) :
    of (deeds ++ [deed]) = (of deeds).after deed :=
  of_append deeds [deed]

/-- Asking something leaves the unit of work as it is. -/
@[simp] theorem ask_work (x : Doing) (q : Outside.Request) : (x.ask q).work = x.work := by
  unfold ask
  split <;> rfl

/-- Hearing an answer leaves the unit of work as it is. -/
@[simp] theorem hear_work (x : Doing) (q : Outside.Request) (reply : Outside.service.Reply q) :
    (x.hear q reply).work = x.work := by
  unfold hear
  split <;> rfl

/-- Asking something is no failure. -/
@[simp] theorem ask_failed (x : Doing) (q : Outside.Request) : (x.ask q).failed = x.failed := by
  unfold ask
  split <;> rfl

/-- Hearing an answer is no failure of the unit of work. -/
@[simp] theorem hear_failed (x : Doing) (q : Outside.Request) (reply : Outside.service.Reply q) :
    (x.hear q reply).failed = x.failed := by
  unfold hear
  split <;> rfl

/-- A worker is only at a unit of work that it took, and only that can have failed. -/
theorem took_of_work {deeds : List Deed} {work : Work}
    (h : (of deeds).work = some work ∨ (of deeds).failed = some work) : .took work ∈ deeds := by
  induction deeds using List.reverseRecOn with
  | nil => rcases h with h | h <;> cases h
  | append_singleton deeds deed ih =>
    rw [of_concat] at h
    rw [List.mem_append]
    cases deed with
    | took work' =>
      rcases h with h | h
      · cases h
        exact .inr (List.mem_singleton.mpr rfl)
      · cases h
    | said line => exact .inl (ih h)
    | asked q =>
      simp only [after, ask_work, ask_failed] at h
      exact .inl (ih h)
    | heard q reply =>
      simp only [after, hear_work, hear_failed] at h
      exact .inl (ih h)
    | ended failed =>
      cases failed with
      | true =>
        rcases h with h | h
        · cases h
        · exact .inl (ih (.inl h))
      | false => rcases h with h | h <;> cases h
    | left => rcases h with h | h <;> cases h

/-- What was asked last of the chat platform is on the record of the worker. -/
theorem talk_suffix (deeds : List Deed) : (of deeds).talk <:+ deeds.filterMap Deed.chatCall? := by
  induction deeds using List.reverseRecOn with
  | nil => exact List.suffix_rfl
  | append_singleton deeds deed ih =>
    -- What is no call ends the talk, or leaves it as it is.
    have hmore : ∀ {talk : List (Event Chat.service)}, deed.chatCall? = none →
        talk = [] ∨ talk = (of deeds).talk →
          talk <:+ (deeds ++ [deed]).filterMap Deed.chatCall? := by
      rintro talk hnone (rfl | rfl)
      · exact List.nil_suffix
      · rw [List.filterMap_append, List.filterMap_cons_none hnone, List.filterMap_nil,
          List.append_nil]
        exact ih
    rw [of_concat]
    cases deed with
    | took work => exact hmore rfl (.inl rfl)
    | said line => exact hmore rfl (.inr rfl)
    | asked q =>
      refine hmore rfl ?_
      simp only [after]
      unfold ask
      split
      · exact .inl rfl
      · exact .inr rfl
    | heard q reply =>
      match q, reply with
      | .chat q, reply =>
        obtain ⟨earlier, hearlier⟩ := ih
        refine ⟨earlier, ?_⟩
        rw [List.filterMap_append, ← hearlier, List.append_assoc]
        rfl
      | .agent .next, .ok (some e) => exact hmore rfl (.inl rfl)
      | .agent .next, .ok none => exact hmore rfl (.inr rfl)
      | .agent .next, .error _ => exact hmore rfl (.inr rfl)
      | .agent .close, _ => exact hmore rfl (.inl rfl)
      | .agent (.start _), _ => exact hmore rfl (.inr rfl)
      | .disk _, _ => exact hmore rfl (.inr rfl)
      | .web _, _ => exact hmore rfl (.inr rfl)
      | .freshName, _ => exact hmore rfl (.inr rfl)
      | .store _, _ => exact hmore rfl (.inr rfl)
    | ended failed => cases failed <;> exact hmore rfl (.inl rfl)
    | left => exact hmore rfl (.inl rfl)

end Doing

end ChatRelay
