import ChatRelay.Conversation
import ChatRelay.Proofs.Kinds
import ChatRelay.Proofs.Play

/-!
# Log lines of a turn

The log lines that are written while an event is worked on or a question is answered start in one
of a few ways (`Conversation.headings`), whatever texts and failures they show behind that. So none
of them can be taken for a line that the conversation itself writes.
-/

namespace ChatRelay

/-- A text that goes on starts as it did. -/
theorem Text.prefix_toList_append {start : List Char} {s : String} (h : start <+: s.toList)
    (t : String) : start <+: (s ++ t).toList := by
  rw [String.toList_append]
  exact h.trans (List.prefix_append _ _)

/-- Of two starts that are apart a text has at most one. -/
theorem Text.not_prefix_of_apart {start other cs : List Char}
    (hapart : ¬other <+: start ∧ ¬start <+: other) (h : start <+: cs) : ¬other <+: cs := by
  intro hother
  rcases List.prefix_or_prefix_of_prefix hother h with hshort | hlong
  · exact hapart.1 hshort
  · exact hapart.2 hlong

namespace Conversation

/-- The ways in which the log lines of a turn and of an answer start. -/
def headings : List String :=
  ["[flush]", "[reactions]", "[!discord", "[Parser]", "[AgentSession] session",
    "[AgentSession] agent"]

/-- A log line that starts in one of these ways. -/
def IsNote (line : String) : Prop := ∃ heading ∈ headings, heading.toList <+: line.toList

instance : DecidablePred IsNote := fun line =>
  inferInstanceAs (Decidable (∃ heading ∈ headings, heading.toList <+: line.toList))

/-- How a log line goes on does not matter. -/
theorem IsNote.append {s : String} (h : IsNote s) (t : String) : IsNote (s ++ t) := by
  obtain ⟨heading, hmem, hstart⟩ := h
  exact ⟨heading, hmem, Text.prefix_toList_append hstart t⟩

/-- Such a line does not start in a way that is apart from all of these. -/
theorem IsNote.starts_apart {line : String} (h : IsNote line) {other : List Char}
    (hapart : ∀ heading ∈ headings, ¬other <+: heading.toList ∧ ¬heading.toList <+: other) :
    ¬other <+: line.toList := by
  obtain ⟨heading, hmem, hstart⟩ := h
  exact Text.not_prefix_of_apart (hapart heading hmem) hstart

end Conversation

namespace Outbox

open Conversation (IsNote)

/-- Sending messages logs only notes. -/
theorem says_sendAll (channel : String) (last : Option String)
    (ms : List (String × List String)) : (sendAll channel last ms).Says IsNote := by
  induction ms generalizing last with
  | nil => trivial
  | cons m rest ih =>
    intro reply
    cases reply with
    | error e => trivial
    | ok id => exact ih id

/-- Reacting to a message logs only notes. -/
theorem says_reactAll (channel message : String) (emojis : List String) :
    (reactAll channel message emojis).Says IsNote := by
  induction emojis with
  | nil => trivial
  | cons emoji rest ih =>
    intro reply
    cases reply with
    | error e =>
      have hline : IsNote "[reactions] Failed to react with " := by decide
      exact ⟨((hline.append _).append _).append _, ih⟩
    | ok _ => exact ih

/-- Posting what is held back logs only notes. -/
theorem says_flush (place : Place) (p : Pending) : (flush place p).Says IsNote := by
  unfold flush
  split
  · trivial
  · have hline : IsNote "[flush] -> " := by decide
    refine ⟨(((hline.append _).append _).append _).append _, ?_⟩
    refine Dialogue.says_bind (says_sendAll _ _ _) fun outcome => ?_
    match outcome with
    | .error e =>
      have hfailed : IsNote "[flush] send failed: " := by decide
      exact ⟨hfailed.append _, trivial⟩
    | .ok none => trivial
    | .ok (some id) => exact says_reactAll _ id _

/-- A reaction logs only notes. -/
theorem says_reaction (place : Place) (messageId emoji : String) (remove : Bool) :
    (reaction place messageId emoji remove).Says IsNote := by
  intro reply
  cases reply with
  | error e =>
    have hline : IsNote "[!discord reaction] Error: " := by decide
    exact ⟨hline.append _, trivial⟩
  | ok _ => trivial

/-- A deletion logs only notes. -/
theorem says_delete (place : Place) (messageId : String) :
    (delete place messageId).Says IsNote := by
  have hfailed : IsNote "[!discord delete] Error: " := by decide
  have hother : IsNote "[!discord delete] Cannot delete message " := by decide
  intro fetched
  cases fetched with
  | error e => exact ⟨hfailed.append _, trivial⟩
  | ok message =>
    intro own
    cases own with
    | error e => exact ⟨hfailed.append _, trivial⟩
    | ok own =>
      dsimp only
      split
      · intro deleted
        cases deleted with
        | error e => exact ⟨hfailed.append _, trivial⟩
        | ok _ => trivial
      · exact ⟨((hother.append _).append _).append _, trivial⟩

/-- Sending a message logs only notes, when its tag starts one. -/
theorem says_sendMessage {tag : String} (htag : IsNote tag) (channel message : String) :
    (sendMessage tag channel message).Says IsNote := by
  unfold sendMessage
  split
  · exact ⟨(htag.append _), trivial⟩
  · refine Dialogue.says_bind (says_sendAll _ _ _) fun outcome => ?_
    cases outcome with
    | error e => exact ⟨(htag.append _).append _, trivial⟩
    | ok _ => trivial

/-- A message to another channel logs only notes. -/
theorem says_sendTo (ref message : String) : (sendTo ref message).Says IsNote := by
  have hfailed : IsNote "[!discord sendto] Error resolving " := by decide
  have hmissing : IsNote "[!discord sendto] Channel not found: " := by decide
  intro reply
  match reply with
  | .error e => exact ⟨((hfailed.append _).append _).append _, trivial⟩
  | .ok none => exact ⟨hmissing.append _, trivial⟩
  | .ok (some channel) => exact says_sendMessage (by decide) channel.id message

/-- A directive that does something by itself logs how that went. -/
theorem says_act {place : Place} {d : Directive} {act : Act Unit} (h : d.act? place = some act) :
    act.Says IsNote := by
  cases d with
  | reaction messageId emoji remove =>
    cases h
    exact says_reaction place messageId emoji remove
  | delete messageId =>
    cases h
    exact says_delete place messageId
  | send message =>
    cases h
    exact says_sendMessage (by decide) place.channelId message
  | sendTo channel message =>
    cases h
    exact says_sendTo channel message
  | text _ | media _ | reactions _ | nop | history _ | exec _ => cases h

/-- Directives that are played log only notes. -/
theorem says_play (place : Place) (p : Pending) (ds : List Directive) :
    (play place p ds).Says IsNote := by
  induction ds generalizing p with
  | nil => trivial
  | cons d rest ih =>
    rcases d.kinds place with hheld | ⟨act, hact⟩ | ⟨question, hquestion⟩
    · rw [play_of_held hheld]
      exact ih _
    · rw [play_of_act hact]
      exact Dialogue.says_bind (says_flush place p) fun _ =>
        Dialogue.says_bind (says_act hact) fun _ => ih _
    · rw [play_of_question hquestion]
      exact Dialogue.says_bind (says_flush place p) fun _ => trivial

/-- The dispatch of directives logs only notes. -/
theorem says_dispatch (place : Place) (ds : List Directive) :
    (dispatch place ds).Says IsNote := by
  refine Dialogue.says_bind (says_play place {} ds) fun r => ?_
  match r with
  | (p, some question) => trivial
  | (p, none) => exact Dialogue.says_bind (says_flush place p) fun _ => trivial

/-- Reading a message as a file logs only notes. -/
theorem says_fetchForExec (place : Place) (messageId : String) :
    (fetchForExec place messageId).Says IsNote := by
  have hline : IsNote "[!discord exec] Error fetching message " := by decide
  intro reply
  cases reply with
  | error e => exact ⟨((hline.append _).append _).append _, trivial⟩
  | ok message => trivial

end Outbox

namespace History

open Conversation (IsNote)

/-- Going past messages of a history logs only notes. -/
theorem says_skip (channel : String) (before : Option String) (left : Nat) :
    (skip channel before left).Says IsNote := by
  fun_induction skip channel before left with
  | case1 => trivial
  | case2 before left h ih =>
    intro reply
    match reply with
    | .error e => trivial
    | .ok [] => trivial
    | .ok (m :: ms) => exact ih m ms

/-- Collecting messages of a history logs only notes. -/
theorem says_collect (channel : String) (before : Option String) (left : Nat) :
    (collect channel before left).Says IsNote := by
  fun_induction collect channel before left with
  | case1 => trivial
  | case2 before left h ih =>
    intro reply
    match reply with
    | .error e => trivial
    | .ok [] => trivial
    | .ok (m :: ms) => exact Dialogue.says_bind (ih m ms) fun _ => trivial

/-- A failure to get a history logs a note. -/
theorem says_failed (e : Failure) : (failed e).Says IsNote := by
  have hline : IsNote "[!discord history] Error: " := by decide
  exact ⟨hline.append _, trivial⟩

/-- The transcript of a history logs only notes. -/
theorem says_transcript (channel : Chat.Channel) (request : HistoryRequest) :
    (transcript channel request).Says IsNote := by
  have hmessages : (messages channel.id request).Says IsNote := by
    refine Dialogue.says_bind (says_skip _ _ _) fun outcome => ?_
    cases outcome with
    | error e => trivial
    | ok before => exact says_collect _ _ _
  refine Dialogue.says_bind hmessages fun outcome => ?_
  cases outcome with
  | error e => exact says_failed e
  | ok ms => trivial

/-- The answer to a question about the history logs only notes. -/
theorem says_answer (place : Place) (request : HistoryRequest) :
    (answer place request).Says IsNote := by
  unfold answer
  cases request.channel with
  | none => exact says_transcript _ request
  | some ref =>
    dsimp only
    split
    · exact says_transcript _ request
    · intro reply
      match reply with
      | .error e => exact says_failed e
      | .ok none => trivial
      | .ok (some channel) => exact says_transcript channel request

end History

namespace Response

open Conversation (IsNote)

/-- Reading a command is logged with the parser's heading. -/
theorem isNote_of_mem_notes {line note : String} (h : note ∈ Line.notes line) : IsNote note := by
  have hparser : IsNote "[Parser] " := by decide
  unfold Line.notes at h
  split at h
  · cases h
  · split at h
    · rw [List.mem_singleton] at h
      rw [h]
      exact hparser.append _
    · cases h

/-- What the parser notes about lines is a note. -/
theorem isNote_of_mem_ofLines {h : Heredoc} {ls : List String} {note : String}
    (hmem : note ∈ (ofLines h ls).notes) : IsNote note := by
  induction ls generalizing h with
  | nil =>
    unfold ofLines at hmem
    cases ho : h.opener with
    | none =>
      rw [ho] at hmem
      cases hmem
    | some o =>
      rw [ho] at hmem
      have hline : IsNote "[Parser] heredoc " := by decide
      rw [List.mem_singleton.mp hmem]
      exact (hline.append _).append _
  | cons line rest ih =>
    unfold ofLines at hmem
    cases ho : h.opener with
    | some o =>
      simp only [ho] at hmem
      split at hmem
      · exact ih hmem
      · exact ih hmem
    | none =>
      simp only [ho] at hmem
      split at hmem
      · cases hmem
      all_goals
        rcases List.mem_append.mp hmem with hline | hrest
        · exact isNote_of_mem_notes hline
        · exact ih hrest

end Response

namespace Conversation

/-- Carrying out a text logs only notes. -/
theorem says_carryOut (place : Place) (text : String) : (carryOut place text).Says IsNote := by
  have hnotes : ∀ note ∈ (Response.read text).notes, IsNote note := fun _ hmem =>
    Response.isNote_of_mem_ofLines hmem
  refine Dialogue.says_bind (Dialogue.says_notes hnotes) fun _ => ?_
  cases (Response.read text).directives with
  | error refusal => trivial
  | ok ds =>
    exact Dialogue.says_bind (Dialogue.says_via (Outbox.says_dispatch place ds) fun _ _ => trivial)
      fun _ => trivial

/-- The work on an event logs only notes. -/
theorem says_heed (place : Place) (e : Agent.Event) : (heed place e).Says IsNote := by
  unfold heed
  cases e.kind with
  | session => trivial
  | result =>
    dsimp only
    split
    · trivial
    · have hline : IsNote "[AgentSession] agent query error (" := by decide
      exact ⟨(hline.append _).append _, trivial⟩
  | text =>
    dsimp only
    split
    · trivial
    · exact says_carryOut place e.text

/-- The log lines of the work on an event. -/
theorem says_react (place : Place) (known : Option String) (e : Agent.Event) :
    (react place known e).Says IsNote := by
  have hreport : (reportSession known e).Says IsNote := by
    unfold reportSession
    split
    · trivial
    · split
      · trivial
      · have hline : IsNote "[AgentSession] session changed: " := by decide
        exact ⟨((hline.append _).append _).append _, fun _ => trivial⟩
  refine Dialogue.says_bind hreport fun reported => ?_
  cases reported with
  | error failure => trivial
  | ok _ => exact says_heed place e

/-- The log lines of an answer. -/
theorem says_answer (setup : Setup) (question : Feedback) :
    (Work.ofChat (answer setup question)).Says IsNote := by
  refine Dialogue.says_via ?_ fun _ _ => trivial
  cases question with
  | history request => exact History.says_answer setup.place request
  | exec messageId =>
    refine Dialogue.says_bind (Outbox.says_fetchForExec setup.place messageId) fun found => ?_
    cases found <;> trivial

end Conversation

end ChatRelay
