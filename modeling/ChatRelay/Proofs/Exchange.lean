import ChatRelay.Proofs.Aside
import ChatRelay.Proofs.Notes
import ChatRelay.Proofs.Verdict

/-!
# One turn of a conversation

In the record of a conversation one turn takes a stretch: it is announced and started, its events
are heard and worked on until one of them asks a question or there are no more, it is closed, and
its question is answered. `Exchange` is such a stretch. A conversation with a prompt either stops
there or goes through one exchange, and then it is over or has the answer as its next prompt
(`Conversation.runs_prompting`).
-/

namespace ChatRelay

open Dialogue (Event)

namespace Work

/-- The turn that is started, where one is. -/
def started? : Event service → Option Agent.Turn
  | .asked (.outside (.agent (.start turn))) _ => some turn
  | _ => none

/-- The event of the agent that is heard, where one is. -/
def heard? : Event service → Option Agent.Event
  | .asked (.outside (.agent .next)) (.ok (some (e : Agent.Event))) => some e
  | _ => none

/-- A turn is started. -/
def starts (turn : Agent.Turn) : Event service := .asked (.outside (.agent (.start turn))) (.ok ())

/-- The next event is heard, or that there are no more. -/
def hears (e : Option Agent.Event) : Event service := .asked (.outside (.agent .next)) (.ok e)

/-- The turn is closed. -/
def closes : Event service := .asked (.outside (.agent .close)) (.ok ())

/-- Where nothing is asked of the agent, no turn is started and no event is heard. -/
theorem eq_nil_of_isApart {os : List (Event service)}
    (h : ∀ q ∈ os.filterMap Event.request?, q.IsApart) :
    os.filterMap started? = [] ∧ os.filterMap heard? = [] := by
  have hasked : ∀ q reply, .asked q reply ∈ os → q.IsApart := fun q reply hmem =>
    h q (List.mem_filterMap.mpr ⟨_, hmem, rfl⟩)
  constructor
  · refine List.filterMap_eq_nil_iff.mpr fun o ho => ?_
    unfold started?
    split
    · exact (hasked _ _ ho : False).elim
    · rfl
  · refine List.filterMap_eq_nil_iff.mpr fun o ho => ?_
    unfold heard?
    split
    · exact (hasked _ _ ho : False).elim
    · rfl

end Work

open Work (started? heard?)

/-! ## Hearing a turn -/

/-- What is said and asked between the start of a turn and its close. -/
structure Hearing (os : List (Event Work.service)) : Prop where
  /-- Only the last event that is heard may ask a question. -/
  last : ∀ e ∈ (os.filterMap heard?).dropLast, e.question? = none
  started : os.filterMap started? = []
  notes : ∀ line ∈ os.filterMap Event.line?, Conversation.IsNote line

/-- The first question of the events that are heard. -/
def Hearing.question? (os : List (Event Work.service)) : Option Feedback :=
  (os.filterMap heard?).findSome? Agent.Event.question?

namespace Conversation

/-- The work on an event asks nothing of the agent or the store. -/
theorem asks_react (place : Place) (known : Option String) (e : Agent.Event) :
    (react place known e).Asks Work.Request.IsApart := by
  have hreport := asks_reportSession (p := Work.Request.IsApart) (fun _ => trivial) known e
  refine Dialogue.asks_bind hreport fun reported => ?_
  cases reported with
  | error failure => trivial
  | ok _ => exact (asks_heed place e).mono fun _ => Work.isApart_of_isAside

/-- An answer asks nothing of the agent or the store. -/
theorem asks_answer (setup : Setup) (question : Feedback) :
    (Work.ofChat (answer setup question)).Asks Work.Request.IsApart :=
  (Work.asks_ofChat _).mono fun _ => Work.isApart_of_isAside

end Conversation

namespace Hearing

/-- A turn of which nothing is on record yet is one that is being heard. -/
theorem nil : Hearing [] := ⟨nofun, rfl, nofun⟩

/-- One more event with the work on it, before what is heard after that. -/
theorem cons {e : Agent.Event} {work os : List (Event Work.service)}
    (asks : ∀ q ∈ work.filterMap Event.request?, q.IsApart)
    (notes : ∀ line ∈ work.filterMap Event.line?, Conversation.IsNote line) (hos : Hearing os)
    (hlast : os.filterMap heard? ≠ [] → e.question? = none) :
    Hearing (Work.hears (some e) :: (work ++ os)) ∧
      question? (Work.hears (some e) :: (work ++ os)) = e.question?.or (question? os) := by
  obtain ⟨hstarted, hheard⟩ := Work.eq_nil_of_isApart asks
  have hevents : (Work.hears (some e) :: (work ++ os)).filterMap heard? =
      e :: os.filterMap heard? := by
    rw [List.filterMap_cons_some (f := heard?) rfl, List.filterMap_append, hheard,
      List.nil_append]
  refine ⟨⟨?_, ?_, ?_⟩, ?_⟩
  · rw [hevents]
    cases hrest : os.filterMap heard? with
    | nil => exact nofun
    | cons e' es =>
      rw [List.dropLast_cons_cons, List.forall_mem_cons]
      exact ⟨hlast (by rw [hrest]; exact List.cons_ne_nil _ _), hrest ▸ hos.last⟩
  · rw [List.filterMap_cons_none (f := started?) rfl, List.filterMap_append, hstarted, hos.started,
      List.append_nil]
  · rw [List.filterMap_cons_none (f := Event.line?) rfl, List.filterMap_append,
      List.forall_mem_append]
    exact ⟨notes, hos.notes⟩
  · rw [question?, hevents, List.findSome?_cons]
    cases e.question? <;> rfl

/-- An event that asks a question is the last one that is heard. -/
theorem of_question {e : Agent.Event} {work : List (Event Work.service)} {question : Feedback}
    (asks : ∀ q ∈ work.filterMap Event.request?, q.IsApart)
    (notes : ∀ line ∈ work.filterMap Event.line?, Conversation.IsNote line)
    (hquestion : e.question? = some question) :
    Hearing (Work.hears (some e) :: work) ∧
      question? (Work.hears (some e) :: work) = some question := by
  obtain ⟨hhearing, hasked⟩ := cons asks notes nil (absurd rfl)
  rw [List.append_nil] at hhearing hasked
  rw [hquestion, Option.some_or] at hasked
  exact ⟨hhearing, hasked⟩

/-- The end of the events asks nothing. -/
theorem exhausted : Hearing [Work.hears none] :=
  ⟨nofun, rfl, nofun⟩

end Hearing

namespace Conversation

variable {c : Conversation} {os : List (Event Work.service)}

/-- The phase behind a turn that asked this or nothing. -/
def Phase.left : Option Feedback → Phase
  | none => .over (.ok ())
  | some question => .asked question

/-- When a turn is closed without an exception, the conversation goes on with its question or is
over. -/
theorem runs_closing {verdict : Verdict} (h : Step.Runs step c os (.ok ()))
    (hphase : c.phase = .closing verdict) :
    ∃ question rest, verdict = .ok question ∧
      os = Work.closes :: rest ∧
      Step.Runs step { c with phase := .left question } rest (.ok ()) := by
  have hstep : c.step = .ask (.outside (.agent .close)) (c.leave verdict) := by
    rw [step, hphase]
  have hfailed : ∀ e rest, ¬Step.Runs step { c with phase := .over (.error e) } rest (.ok ()) := by
    intro e rest hrun
    cases (hrun.of_finished rfl).2
  obtain ⟨reply, rest, rfl, hrest⟩ := h.of_ask hstep
  match reply, verdict with
  | .error e, _ => exact absurd hrest (hfailed e rest)
  | .ok (), .error e => exact absurd hrest (hfailed e rest)
  | .ok (), .ok none => exact ⟨none, rest, rfl, rfl, hrest⟩
  | .ok (), .ok (some question) => exact ⟨some question, rest, rfl, rfl, hrest⟩

/-- A turn is heard until one of its events asks a question or there are no more, and then it is
closed. -/
theorem runs_listening (h : Step.Runs step c os (.ok ())) (hphase : c.phase = .listening) :
    ∃ hearing rest session, os = hearing ++ Work.closes :: rest ∧ Hearing hearing ∧
      Step.Runs step { c with session, phase := .left (Hearing.question? hearing) } rest
        (.ok ()) := by
  induction hn : os.length using Nat.strongRecOn generalizing c os with
  | ind n ih =>
    have hstep : c.step = .ask (.outside (.agent .next)) c.hear := by
      rw [step, hphase]
    obtain ⟨reply, os', rfl, hrest⟩ := h.of_ask hstep
    match reply with
    | .error e =>
      obtain ⟨question, rest, hverdict, -⟩ := runs_closing hrest rfl
      cases hverdict
    | .ok (none : Option Agent.Event) =>
      obtain ⟨question, rest, hverdict, rfl, hleft⟩ := runs_closing hrest rfl
      cases hverdict
      exact ⟨_, rest, c.session, rfl, Hearing.exhausted, hleft⟩
    | .ok (some (e : Agent.Event)) =>
      -- The work on the event is played, and its result says whether the turn goes on.
      obtain ⟨work, os', verdict, rfl, hplay, hjudged⟩ := Step.Runs.inside
        (fun work => { c.hear (.ok (some e)) with phase := .reacting work })
        (c.hear (.ok (some e))).judge (fun _ => rfl) hrest
      have hasks := hplay.asks (asks_react c.setup.place c.session e)
      have hnotes := hplay.says (says_react c.setup.place c.session e)
      have hquestion := hplay.yields (yields_react c.setup.place c.session e)
      match verdict with
      | .error failure =>
        obtain ⟨question, rest, hverdict, -⟩ := runs_closing hjudged rfl
        cases hverdict
      | .ok (some question) =>
        obtain ⟨question', rest, hverdict, rfl, hleft⟩ := runs_closing hjudged rfl
        cases hverdict
        obtain ⟨hhearing, hasked⟩ := Hearing.of_question hasks hnotes (hquestion _ rfl).symm
        refine ⟨Work.hears (some e) :: work, rest, e.reported?.or c.session, rfl, hhearing, ?_⟩
        rw [hasked]
        exact hleft
      | .ok none =>
        have hshort : os'.length < n := by
          rw [← hn, List.length_cons, List.length_append]
          omega
        obtain ⟨hearing, rest, session, rfl, hhearing, hleft⟩ := ih _ hshort hjudged rfl rfl
        obtain ⟨hall, hasked⟩ := Hearing.cons hasks hnotes hhearing fun _ => (hquestion _ rfl).symm
        rw [← hquestion _ rfl, Option.none_or] at hasked
        refine ⟨Work.hears (some e) :: (work ++ hearing), rest, session,
          congrArg _ (List.append_assoc _ _ _).symm, hall, ?_⟩
        rw [hasked]
        exact hleft

/-! ## Answering a question -/

/-- The answer to a question, with what is said and asked to find it. -/
inductive Answers (setup : Setup) : Feedback → List (Event Work.service) → String → Prop where
  /-- The transcript of a channel, or a line that says why there is none. -/
  | history {request : HistoryRequest} {os : List (Event Work.service)} {text : String}
      (played : (Work.ofChat (History.answer setup.place request)).Plays os text)
      (kind : History.IsAnswer request text) : Answers setup (.history request) os text
  /-- The prompt for the message that was fetched. -/
  | exec {messageId : String} (m : Message) :
      Answers setup (.exec messageId)
        [.asked (.outside (.chat (.fetch setup.place.channelId messageId))) (.ok m)]
        (Prompt.message m.id setup.skill m.content setup.place.channelId m.attachments)
  /-- The line that says that the message could not be fetched. -/
  | notFound {messageId : String} (e : Failure) :
      Answers setup (.exec messageId)
        [.asked (.outside (.chat (.fetch setup.place.channelId messageId))) (.error e),
          .said s!"[!discord exec] Error fetching message {messageId}: {e.message}"]
        (Prompt.notFound messageId)

/-- What is played to answer a question is an answer to it. -/
theorem answers_of_plays {setup : Setup} {question : Feedback} {text : String}
    (h : (Work.ofChat (answer setup question)).Plays os text) :
    Answers setup question os text := by
  cases question with
  | history request =>
    exact .history h (h.yields (Dialogue.yields_via (History.yields_answer setup.place request)))
  | exec messageId =>
    cases h with
    | ask reply played =>
      match reply with
      | .error e =>
        cases played with
        | say played =>
          cases played with
          | done => exact .notFound e
      | .ok (m : Message) =>
        cases played with
        | done => exact .exec m

end Conversation

/-! ## Exchanges -/

/-- One turn of a conversation: what it is started with, what is said and asked until it is
closed, and what is said and asked to answer its question. -/
structure Exchange where
  turn : Agent.Turn
  hearing : List (Event Work.service)
  answering : List (Event Work.service) := []

namespace Exchange

/-- What is said and asked in an exchange. -/
def record (x : Exchange) : List (Event Work.service) :=
  .said ("[AgentSession] session: " ++ x.turn.session.getD "NEW") :: Work.starts x.turn ::
    (x.hearing ++ Work.closes :: x.answering)

/-- The question that ended the turn. -/
def question? (x : Exchange) : Option Feedback := Hearing.question? x.hearing

/-- An exchange for a prompt. Nothing but its own turn is started in it. -/
structure For (prompt : String) (x : Exchange) : Prop where
  prompt : x.turn.prompt = prompt
  hearing : Hearing x.hearing
  started : x.answering.filterMap started? = []
  notes : ∀ line ∈ x.answering.filterMap Event.line?, Conversation.IsNote line

/-- An exchange starts its turn and no other. -/
theorem For.started_record {prompt : String} {x : Exchange} (h : x.For prompt) :
    x.record.filterMap started? = [x.turn] := by
  have hanswering : (Work.closes :: x.answering).filterMap started? = [] := by
    rw [List.filterMap_cons_none (f := started?) rfl, h.started]
  rw [record, List.filterMap_cons_none (f := started?) rfl,
    List.filterMap_cons_some (f := started?) rfl, List.filterMap_append, h.hearing.started,
    hanswering, List.nil_append]

/-- The log lines of an exchange. -/
theorem For.notes_record {prompt : String} {x : Exchange} (h : x.For prompt) :
    ∀ line ∈ x.record.filterMap Event.line?, Conversation.IsNote line := by
  have hsession : Conversation.IsNote "[AgentSession] session: " := by decide
  rw [record, List.filterMap_cons_some (f := Event.line?) rfl,
    List.filterMap_cons_none (f := Event.line?) rfl, List.filterMap_append, List.forall_mem_cons,
    List.forall_mem_append, List.filterMap_cons_none (f := Event.line?) rfl]
  exact ⟨hsession.append _, h.hearing.notes, h.notes⟩

end Exchange

namespace Conversation

variable {c : Conversation} {os : List (Event Work.service)}

/-- The log line of a conversation that was asked too many questions. -/
def depthNote (setup : Setup) (question : Feedback) : String :=
  s!"[AgentSession] depth exceeded ({setup.maxDepth}); " ++ s!"dropping {question.kindName}"

/-- The log line of a conversation that has had too many turns. -/
def turnsNote (setup : Setup) : String :=
  s!"[AgentSession] max iterations ({setup.maxTurns}) reached; stopping"

/-- What a conversation that has a prompt does until it has another prompt or is over. -/
inductive Round (c : Conversation) (prompt : String) : List (Event Work.service) → Prop where
  /-- There are no turns left. -/
  | exhausted (bound : c.setup.maxTurns ≤ c.rounds) : Round c prompt [.said (turnsNote c.setup)]
  /-- The turn asks nothing. -/
  | silent {x : Exchange} (bound : c.rounds < c.setup.maxTurns) (exchange : x.For prompt)
      (asked : x.question? = none) : Round c prompt x.record
  /-- The turn asks a question, and no questions are left. -/
  | deep {x : Exchange} {question : Feedback} (bound : c.rounds < c.setup.maxTurns)
      (exchange : x.For prompt) (asked : x.question? = some question)
      (depth : c.setup.maxDepth ≤ c.depth) :
      Round c prompt (x.record ++ [.said (depthNote c.setup question)])
  /-- The turn asks a question, and the answer is the next prompt. -/
  | answered {x : Exchange} {question : Feedback} {text : String} {rest : List (Event Work.service)}
      {next : Conversation} (bound : c.rounds < c.setup.maxTurns) (exchange : x.For prompt)
      (asked : x.question? = some question) (depth : c.depth < c.setup.maxDepth)
      (answers : Answers c.setup question x.answering text)
      (runs : Step.Runs step next rest (.ok ())) (phase : next.phase = .prompting text)
      (setup : next.setup = c.setup) (rounds : next.rounds = c.rounds + 1)
      (deeper : next.depth = c.depth + 1) : Round c prompt (x.record ++ rest)

/-- A conversation that is over does nothing any more. -/
theorem runs_over (h : Step.Runs step c os (.ok ())) (hphase : c.phase = .over (.ok ())) :
    os = [] := by
  have hstep : c.step = .finished (.ok ()) := by
    rw [step, hphase]
  exact (h.of_finished hstep).1

/-- A turn is started, and then it is heard until it is closed. -/
theorem runs_starting {prompt : String} (h : Step.Runs step c os (.ok ()))
    (hphase : c.phase = .starting prompt) :
    ∃ hearing rest session,
      os = Work.starts (c.turn prompt) :: (hearing ++ Work.closes :: rest) ∧ Hearing hearing ∧
      Step.Runs step { c with session, phase := .left (Hearing.question? hearing) } rest
        (.ok ()) := by
  obtain ⟨next, hstep, hrefused, hstarted⟩ : ∃ next,
      c.step = .ask (.outside (.agent (.start (c.turn prompt)))) next ∧
      (∀ e, next (.error e) = { c with phase := .closing (.error e) }) ∧
      next (.ok ()) = { c with phase := .listening } := by
    rewrite [step, hphase]
    exact ⟨_, rfl, fun _ => rfl, rfl⟩
  obtain ⟨reply, os', rfl, hrest⟩ := h.of_ask hstep
  match reply with
  | .error e =>
    rw [hrefused e] at hrest
    obtain ⟨question, rest, hverdict, -⟩ := runs_closing hrest rfl
    cases hverdict
  | .ok () =>
    rw [hstarted] at hrest
    obtain ⟨hearing, rest, session, rfl, hhearing, hleft⟩ := runs_listening hrest rfl
    exact ⟨hearing, rest, session, rfl, hhearing, hleft⟩

/-- A question is answered, and the answer is the next prompt, unless there were too many
questions before. -/
theorem runs_asked {question : Feedback} (h : Step.Runs step c os (.ok ()))
    (hphase : c.phase = .asked question) :
    c.setup.maxDepth ≤ c.depth ∧ os = [.said (depthNote c.setup question)] ∨
    c.depth < c.setup.maxDepth ∧ ∃ answering rest text, os = answering ++ rest ∧
      (Work.ofChat (answer c.setup question)).Plays answering text ∧
      Step.Runs step { c with depth := c.depth + 1, phase := .prompting text } rest (.ok ()) := by
  have hstep : c.step = c.questioned question := by
    rw [step, hphase]
  by_cases hdepth : c.setup.maxDepth ≤ c.depth
  · rw [questioned, if_pos hdepth] at hstep
    obtain ⟨os', rfl, hrest⟩ := h.of_say hstep
    rw [runs_over hrest rfl]
    exact .inl ⟨hdepth, rfl⟩
  · rw [questioned, if_neg hdepth] at hstep
    obtain ⟨answering, rest, text, rfl, hplay, hrest⟩ := Step.Runs.inside
      (fun work => { c with phase := .answering work })
      (fun text => { c with depth := c.depth + 1, phase := .prompting text })
      (fun _ => rfl) (h.of_silent hstep)
    exact .inr ⟨Int.not_le.mp hdepth, answering, rest, text, rfl, hplay, hrest⟩

/-- A conversation that has a prompt goes through a round. -/
theorem runs_prompting {prompt : String} (h : Step.Runs step c os (.ok ()))
    (hphase : c.phase = .prompting prompt) : Round c prompt os := by
  have hstep : c.step = c.prompted prompt := by
    rw [step, hphase]
  by_cases hbound : c.setup.maxTurns ≤ c.rounds
  · rw [prompted, if_pos hbound] at hstep
    obtain ⟨os', rfl, hrest⟩ := h.of_say hstep
    rw [runs_over hrest rfl]
    exact .exhausted hbound
  · rw [prompted, if_neg hbound] at hstep
    obtain ⟨os', rfl, hstarting⟩ := h.of_say hstep
    obtain ⟨hearing, rest, session, rfl, hhearing, hleft⟩ := runs_starting hstarting rfl
    rw [Int.not_le] at hbound
    -- Whatever is done to answer it, the exchange is one for this prompt.
    have hexchange : ∀ answering : List (Event Work.service),
        (∀ q ∈ answering.filterMap Event.request?, q.IsApart) →
        (∀ line ∈ answering.filterMap Event.line?, IsNote line) →
        Exchange.For prompt { turn := c.turn prompt, hearing, answering } :=
      fun answering hasks hnotes =>
        ⟨rfl, hhearing, (Work.eq_nil_of_isApart hasks).1, hnotes⟩
    have hrecord : ∀ answering rest : List (Event Work.service),
        Exchange.record { turn := c.turn prompt, hearing, answering } ++ rest =
          .said ("[AgentSession] session: " ++ c.session.getD "NEW") ::
            Work.starts (c.turn prompt) :: (hearing ++ Work.closes :: (answering ++ rest)) := by
      intro answering rest
      simp only [Exchange.record, turn, List.cons_append, List.append_assoc]
    cases hasked : Hearing.question? hearing with
    | none =>
      rw [hasked] at hleft
      rw [runs_over hleft rfl]
      exact .silent hbound (hexchange [] nofun nofun) hasked
    | some question =>
      rw [hasked] at hleft
      rcases runs_asked hleft rfl with
        ⟨hdepth, rfl⟩ | ⟨hdepth, answering, rest, text, rfl, hplay, hrest⟩
      · have hround := Round.deep hbound (hexchange [] nofun nofun) hasked hdepth
        rw [hrecord] at hround
        exact hround
      · have hasks := hplay.asks (asks_answer c.setup question)
        have hnotes := hplay.says (says_answer c.setup question)
        have hround := Round.answered hbound (hexchange answering hasks hnotes) hasked hdepth
          (answers_of_plays hplay) hrest rfl rfl rfl rfl
        rw [hrecord] at hround
        exact hround

end Conversation

end ChatRelay
