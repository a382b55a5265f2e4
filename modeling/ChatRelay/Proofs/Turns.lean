import ChatRelay.Proofs.Exchange
import Mathlib.Data.ENat.Lattice
import Mathlib.Data.List.Chain

/-!
# The turns of a conversation

A conversation that ends without an exception is a list of exchanges, one after the other, each
with the answer to the question of the one before as its prompt: `Talk` is such a list with what
bounds it, and `Conversation.talk_of_runs` finds it in the record. The number of turns is the least
of three numbers: the most turns, one more than the most answers, and the first turn that asks
nothing.

The main statement is `Conversation.turns_of_run`.
-/

namespace ChatRelay

open Dialogue (Event)
open Work (started?)

/-- The number of the first exchange whose turn asks nothing, if there is one. -/
def Exchange.firstSilent (xs : List Exchange) : ℕ∞ :=
  (xs.findIdx? fun x => x.question?.isNone).elim ⊤ fun n => n + 1

/-- Among no exchanges none is silent. -/
theorem Exchange.firstSilent_nil : firstSilent [] = ⊤ := rfl

/-- An exchange that comes first and asks nothing is the first silent one. -/
theorem Exchange.firstSilent_of_silent {x : Exchange} (h : x.question? = none)
    (xs : List Exchange) : firstSilent (x :: xs) = 1 := by
  have hsilent : x.question?.isNone = true := by rw [h]; rfl
  simp only [firstSilent, List.findIdx?_cons, hsilent, if_true, Option.elim_some, Nat.cast_zero,
    zero_add]

/-- Behind an exchange that asks something, the first silent one comes one later. -/
theorem Exchange.firstSilent_of_asked {x : Exchange} {question : Feedback}
    (h : x.question? = some question) (xs : List Exchange) :
    firstSilent (x :: xs) = firstSilent xs + 1 := by
  have hasked : x.question?.isNone = false := by rw [h]; rfl
  simp only [firstSilent, List.findIdx?_cons, hasked, Bool.false_eq_true, if_false]
  cases xs.findIdx? fun x => x.question?.isNone with
  | none => rfl
  | some n => simp only [Option.map_some, Option.elim_some, Nat.cast_add, Nat.cast_one]

namespace Conversation

/-- The turns that a conversation goes through when this many turns and this many answers are left,
for a prompt; and the log line that it stops with, if it is stopped. -/
inductive Talk (setup : Setup) : ℕ → ℕ → String → List Exchange → Option String → Prop where
  | exhausted {d : ℕ} {prompt : String} : Talk setup 0 d prompt [] (some (turnsNote setup))
  | silent {i d : ℕ} {prompt : String} {x : Exchange} (exchange : x.For prompt)
      (asked : x.question? = none) : Talk setup (i + 1) d prompt [x] none
  | deep {i : ℕ} {prompt : String} {x : Exchange} {question : Feedback} (exchange : x.For prompt)
      (asked : x.question? = some question) :
      Talk setup (i + 1) 0 prompt [x] (some (depthNote setup question))
  | answered {i d : ℕ} {prompt text : String} {x : Exchange} {question : Feedback}
      {xs : List Exchange} {stop : Option String} (exchange : x.For prompt)
      (asked : x.question? = some question) (answers : Answers setup question x.answering text)
      (rest : Talk setup i d text xs stop) : Talk setup (i + 1) (d + 1) prompt (x :: xs) stop

variable {c : Conversation} {os : List (Event Work.service)}

/-- A conversation goes through the turns of a talk. -/
theorem talk_of_runs {prompt : String} (h : Step.Runs step c os (.ok ()))
    (hphase : c.phase = .prompting prompt) :
    ∃ xs stop, Talk c.setup (c.setup.maxTurns - c.rounds).toNat (c.setup.maxDepth - c.depth).toNat
        prompt xs stop ∧
      os = xs.flatMap Exchange.record ++ stop.toList.map .said := by
  induction hn : os.length using Nat.strongRecOn generalizing c os prompt with
  | ind n ih =>
    have hleft : ∀ {a : ℤ} {b : ℕ}, b < a → (a - b).toNat = (a - (b + 1 : ℕ)).toNat + 1 := by
      intro a b hab
      omega
    cases runs_prompting h hphase with
    | exhausted bound =>
      have hnone : (c.setup.maxTurns - c.rounds).toNat = 0 := by omega
      rw [hnone]
      exact ⟨[], _, .exhausted, rfl⟩
    | @silent x bound exchange asked =>
      rw [hleft bound]
      exact ⟨[x], none, .silent exchange asked, by simp⟩
    | @deep x question bound exchange asked depth =>
      have hnone : (c.setup.maxDepth - c.depth).toNat = 0 := by omega
      rw [hleft bound, hnone]
      exact ⟨[x], _, .deep exchange asked, by simp⟩
    | @answered x question text rest next bound exchange asked depth answers runs phase setup
        rounds deeper =>
      have hshort : rest.length < n := by
        rw [← hn, List.length_append, Exchange.record, List.length_cons]
        omega
      obtain ⟨xs, stop, htalk, rfl⟩ := ih _ hshort runs phase rfl
      rw [setup, rounds, deeper] at htalk
      rw [hleft bound, hleft depth]
      exact ⟨x :: xs, stop, .answered exchange asked answers htalk, by simp⟩

section Talk

variable {setup : Setup} {i d : ℕ} {prompt : String} {xs : List Exchange} {stop : Option String}

namespace Talk

/-- All turns are exchanges for the prompts that they are started with. -/
theorem all_for (h : Talk setup i d prompt xs stop) : ∀ x ∈ xs, x.For x.turn.prompt := by
  have hfor : ∀ {prompt : String} {x : Exchange}, x.For prompt → x.For x.turn.prompt :=
    fun hx => hx.prompt.symm ▸ hx
  induction h with
  | exhausted => exact nofun
  | silent exchange _ | deep exchange _ => exact List.forall_mem_singleton.mpr (hfor exchange)
  | answered exchange _ _ _ ih => exact List.forall_mem_cons.mpr ⟨hfor exchange, ih⟩

/-- The first turn is started with the prompt of the talk. -/
theorem head (h : Talk setup i d prompt xs stop) : ∀ x ∈ xs.head?, x.turn.prompt = prompt := by
  cases h with
  | exhausted => exact nofun
  | silent exchange _ | deep exchange _ | answered exchange _ _ _ =>
    rintro x ⟨⟩
    exact exchange.prompt

/-- Every further turn is started with the answer to the question of the one before. -/
theorem chain (h : Talk setup i d prompt xs stop) : xs.IsChain fun x y =>
    ∃ question, x.question? = some question ∧
      Answers setup question x.answering y.turn.prompt := by
  induction h with
  | exhausted => exact .nil
  | silent _ _ | deep _ _ => exact .singleton _
  | @answered i d prompt text x question xs stop exchange asked answers rest ih =>
    refine List.isChain_cons.mpr ⟨fun y hy => ⟨question, asked, ?_⟩, ih⟩
    rw [rest.head y hy]
    exact answers

/-- How a talk stops: with a turn that asks nothing; or with a question too many; or without a
turn for its last prompt. -/
theorem stops (h : Talk setup i d prompt xs stop) :
    (stop = none ∧ ¬∀ x ∈ xs, x.question?.isSome) ∨
    ((∃ question, stop = some (depthNote setup question)) ∧ d + 1 ≤ i ∧ xs.length = d + 1 ∧
      ∀ x ∈ xs, x.question?.isSome) ∨
    (stop = some (turnsNote setup) ∧ i < d + 1 ∧ xs.length = i ∧ ∀ x ∈ xs, x.question?.isSome) := by
  induction h with
  | @exhausted d prompt => exact .inr (.inr ⟨rfl, Nat.succ_pos d, rfl, nofun⟩)
  | silent _ asked =>
    refine .inl ⟨rfl, fun hall => ?_⟩
    rw [List.forall_mem_singleton, asked] at hall
    cases hall
  | @deep i prompt x question _ asked =>
    refine .inr (.inl ⟨⟨question, rfl⟩, Nat.le_add_left 1 i, rfl, ?_⟩)
    rw [List.forall_mem_singleton, asked]
    rfl
  | @answered i d prompt text x question xs stop _ asked _ _ ih =>
    have hall : (∀ y ∈ xs, y.question?.isSome) → ∀ y ∈ x :: xs, y.question?.isSome := by
      intro hxs
      rw [List.forall_mem_cons, asked]
      exact ⟨rfl, hxs⟩
    rcases ih with ⟨hstop, hsilent⟩ | ⟨hstop, hbound, hlength, hxs⟩ |
      ⟨hstop, hbound, hlength, hxs⟩
    · exact .inl ⟨hstop, fun hxs => hsilent fun y hy => hxs y (List.mem_cons_of_mem x hy)⟩
    · exact .inr (.inl ⟨hstop, Nat.succ_le_succ hbound, congrArg (· + 1) hlength, hall hxs⟩)
    · exact .inr (.inr ⟨hstop, Nat.succ_lt_succ hbound, congrArg (· + 1) hlength, hall hxs⟩)

/-- The number of turns is the least of its three bounds. -/
theorem length (h : Talk setup i d prompt xs stop) :
    (xs.length : ℕ∞) = min (i : ℕ∞) (min (d + 1 : ℕ) (Exchange.firstSilent xs)) := by
  induction h with
  | exhausted => rw [List.length_nil, Nat.cast_zero, min_eq_left zero_le]
  | @silent i d prompt x _ asked =>
    have hone : ∀ n : ℕ, (1 : ℕ∞) ≤ (n + 1 : ℕ) := fun n => Nat.one_le_cast.mpr n.succ_pos
    rw [Exchange.firstSilent_of_silent asked, min_eq_right (hone d), min_eq_right (hone i)]
    rfl
  | @deep i prompt x question _ asked =>
    have hone : ((0 + 1 : ℕ) : ℕ∞) ≤ (i + 1 : ℕ) := Nat.cast_le.mpr (Nat.succ_le_succ i.zero_le)
    rw [Exchange.firstSilent_of_asked asked, Exchange.firstSilent_nil, top_add, min_top_right,
      min_eq_right hone]
    rfl
  | @answered i d prompt text x question xs stop _ asked _ _ ih =>
    rw [Exchange.firstSilent_of_asked asked, List.length_cons, Nat.cast_succ, ih, Nat.cast_succ i,
      Nat.cast_succ (d + 1), min_add_add_right, min_add_add_right]

end Talk

/-- How the log line starts with which a conversation drops a question that is one too many. -/
def depthHeading : String := "[AgentSession] depth exceeded"

/-- How the log line starts with which a conversation stops that has had all its turns. -/
def turnsHeading : String := "[AgentSession] max iterations"

/-- A log line with this start is written. -/
def Logs (os : List (Event Work.service)) (heading : String) : Prop :=
  ∃ line ∈ os.filterMap Event.line?, heading.toList <+: line.toList

/-- A log line is written in one part of a record or in the other. -/
theorem logs_append {os os' : List (Event Work.service)} {heading : String} :
    Logs (os ++ os') heading ↔ Logs os heading ∨ Logs os' heading := by
  simp only [Logs, List.filterMap_append, List.mem_append, or_and_right, exists_or]

/-- One log line has the starts that it has. -/
theorem logs_said {line heading : String} :
    Logs [.said line] heading ↔ heading.toList <+: line.toList := by
  have hlines : [Event.said (P := Work.service) line].filterMap Event.line? = [line] := rfl
  rw [Logs, hlines]
  simp only [List.mem_singleton, exists_eq_left]

/-- The two ways to be stopped are apart from each other. -/
theorem headings_apart : ¬depthHeading.toList <+: turnsHeading.toList ∧
    ¬turnsHeading.toList <+: depthHeading.toList := by
  decide

/-- That a question is dropped is logged as such and not as too many turns. -/
theorem depthNote_starts (setup : Setup) (question : Feedback) :
    depthHeading.toList <+: (depthNote setup question).toList ∧
      ¬turnsHeading.toList <+: (depthNote setup question).toList := by
  have hliteral : depthHeading.toList <+: "[AgentSession] depth exceeded (".toList := by decide
  have hstart : depthHeading.toList <+: (depthNote setup question).toList :=
    Text.prefix_toList_append (Text.prefix_toList_append (Text.prefix_toList_append hliteral _) _) _
  exact ⟨hstart, Text.not_prefix_of_apart headings_apart.symm hstart⟩

/-- That there were too many turns is logged as such and not as a question that is dropped. -/
theorem turnsNote_starts (setup : Setup) :
    ¬depthHeading.toList <+: (turnsNote setup).toList ∧
      turnsHeading.toList <+: (turnsNote setup).toList := by
  have hliteral : turnsHeading.toList <+: "[AgentSession] max iterations (".toList := by decide
  have hstart : turnsHeading.toList <+: (turnsNote setup).toList :=
    Text.prefix_toList_append (Text.prefix_toList_append hliteral _) _
  exact ⟨Text.not_prefix_of_apart headings_apart hstart, hstart⟩

namespace Talk

/-- The turns of a talk are all that is started. -/
theorem started (h : Talk setup i d prompt xs stop) :
    (xs.flatMap Exchange.record).filterMap started? = xs.map (·.turn) := by
  rw [List.filterMap_flatMap, List.map_eq_flatMap]
  exact List.flatMap_congr fun x hx => (h.all_for x hx).started_record

/-- A talk is stopped with the log line that says why, and its turns log nothing like that. -/
theorem logs (h : Talk setup i d prompt xs stop) (heading : String)
    (hapart : ∀ start ∈ headings, ¬heading.toList <+: start.toList ∧
      ¬start.toList <+: heading.toList) :
    Logs (xs.flatMap Exchange.record ++ stop.toList.map .said) heading ↔
      ∃ line, stop = some line ∧ heading.toList <+: line.toList := by
  have hturns : ¬Logs (xs.flatMap Exchange.record) heading := by
    rintro ⟨line, hline, hstart⟩
    rw [List.filterMap_flatMap] at hline
    obtain ⟨x, hx, hline⟩ := List.mem_flatMap.mp hline
    exact ((h.all_for x hx).notes_record line hline).starts_apart hapart hstart
  rw [logs_append, or_iff_right hturns]
  cases stop with
  | none => exact ⟨nofun, nofun⟩
  | some line =>
    rw [Option.toList_some, List.map_singleton, logs_said]
    simp only [Option.some.injEq, exists_eq_left']

/-- That a question is dropped is logged when all turns asked and there was one more of them than
answers. -/
theorem logs_depth (h : Talk setup i d prompt xs stop) :
    Logs (xs.flatMap Exchange.record ++ stop.toList.map .said) depthHeading ↔
      d + 1 ≤ i ∧ xs.length = d + 1 ∧ ∀ x ∈ xs, x.question?.isSome := by
  rw [h.logs depthHeading (by decide)]
  rcases h.stops with ⟨rfl, hsilent⟩ | ⟨⟨question, rfl⟩, hdeep⟩ | ⟨rfl, hbound, -⟩
  · exact ⟨nofun, fun hall => absurd hall.2.2 hsilent⟩
  · exact ⟨fun _ => hdeep, fun _ => ⟨_, rfl, (depthNote_starts setup question).1⟩⟩
  · constructor
    · rintro ⟨line, ⟨⟩, hstart⟩
      exact absurd hstart (turnsNote_starts setup).1
    · rintro ⟨hbound', -⟩
      omega

/-- That there were too many turns is logged when all turns asked and there were as many of them
as may be, and not more answers may be given than that. -/
theorem logs_turns (h : Talk setup i d prompt xs stop) :
    Logs (xs.flatMap Exchange.record ++ stop.toList.map .said) turnsHeading ↔
      i < d + 1 ∧ xs.length = i ∧ ∀ x ∈ xs, x.question?.isSome := by
  rw [h.logs turnsHeading (by decide)]
  rcases h.stops with ⟨rfl, hsilent⟩ | ⟨⟨question, rfl⟩, hbound, -⟩ | ⟨rfl, hexhausted⟩
  · exact ⟨nofun, fun hall => absurd hall.2.2 hsilent⟩
  · constructor
    · rintro ⟨line, ⟨⟩, hstart⟩
      exact absurd hstart (depthNote_starts setup question).2
    · rintro ⟨hbound', -⟩
      omega
  · exact ⟨fun _ => hexhausted, fun _ => ⟨_, rfl, (turnsNote_starts setup).2⟩⟩

end Talk

end Talk

/-- A record of a conversation for a prompt as the record of its turns, and of the log line that it
stops with, if it is stopped. -/
structure InTurns (setup : Setup) (prompt : String) (os : List (Event Work.service))
    (xs : List Exchange) (stop : Option String) : Prop where
  record : os = xs.flatMap Exchange.record ++ stop.toList.map .said
  /-- The turns are all that is started. -/
  started : os.filterMap started? = xs.map (·.turn)
  /-- Only the last event that is heard in a turn may ask a question. -/
  heard : ∀ x ∈ xs, Hearing x.hearing
  /-- There are as many turns as there may be, or one more than there may be answers, or as many as
  it takes until one asks nothing, whichever is least. -/
  count : (xs.length : ℕ∞) = min (setup.maxTurns.toNat : ℕ∞)
    (min (setup.maxDepth.toNat + 1 : ℕ) (Exchange.firstSilent xs))
  first : ∀ x ∈ xs.head?, x.turn.prompt = prompt
  /-- The prompt of every further turn is the answer to the question that ended the one before. -/
  next : xs.IsChain fun x y => ∃ question, x.question? = some question ∧
    Answers setup question x.answering y.turn.prompt
  depth : Logs os depthHeading ↔ setup.maxDepth.toNat + 1 ≤ setup.maxTurns.toNat ∧
    xs.length = setup.maxDepth.toNat + 1 ∧ ∀ x ∈ xs, x.question?.isSome
  turns : Logs os turnsHeading ↔ setup.maxTurns.toNat < setup.maxDepth.toNat + 1 ∧
    xs.length = setup.maxTurns.toNat ∧ ∀ x ∈ xs, x.question?.isSome
  never_both : ¬(Logs os depthHeading ∧ Logs os turnsHeading)

/-- **A conversation goes in turns.** A conversation for a prompt that ends without an exception,
whatever the agent, the chat platform and the engine reply, is the record of its turns: their
number is the least of three bounds, each is started with the answer to the question that ended
the one before, and the log says which of the bounds stopped it. -/
theorem turns_of_run {prompt : String} (h : Step.Runs step (c.begin prompt) os (.ok ())) :
    ∃ xs stop, InTurns c.setup prompt os xs stop := by
  have hrounds : ((c.begin prompt).rounds : ℤ) = 0 := rfl
  have hdepth : ((c.begin prompt).depth : ℤ) = 0 := rfl
  obtain ⟨xs, stop, htalk, rfl⟩ := talk_of_runs h rfl
  rw [hrounds, hdepth, sub_zero, sub_zero] at htalk
  have hstarted : (stop.toList.map Event.said).filterMap started? = [] := by
    cases stop <;> rfl
  refine ⟨xs, stop, rfl, ?_, fun x hx => (htalk.all_for x hx).hearing, htalk.length, htalk.head,
    htalk.chain, htalk.logs_depth, htalk.logs_turns, ?_⟩
  · rw [List.filterMap_append, htalk.started, hstarted, List.append_nil]
  · rw [htalk.logs_depth, htalk.logs_turns]
    rintro ⟨⟨hmore, -⟩, hless, -⟩
    omega

/-- A conversation in a channel without a session. -/
def newConversation : Conversation :=
  { setup := { place := Place.of "7" "" none }, session := none, phase := .over (.ok ()) }

/-- The message that the agent asks for in `execRun`. -/
def execMessage : Message := { (default : Message) with id := "9", content := "go on" }

/-- The agent asks for a message to be worked on next, and does nothing when it is told the
message. -/
def execRun : List (Event Work.service) :=
  [.said "[AgentSession] session: NEW", Work.starts (newConversation.turn "hi"),
    Work.hears (some { kind := .text, text := "!discord exec 9" }),
    .said "[Parser] !discord exec 9", Work.closes,
    .asked (.outside (.chat (.fetch "7" "9"))) (.ok execMessage),
    .said "[AgentSession] session: NEW",
    Work.starts (newConversation.turn (Prompt.message "9" "" "go on" "7" [])),
    Work.hears none, Work.closes]

/-- The conversation goes in two turns. -/
theorem turns_of_execRun :
    Step.Runs step (newConversation.begin "hi") execRun (.ok ()) ∧
      ∃ xs stop, InTurns newConversation.setup "hi" execRun xs stop ∧ xs.length = 2 := by
  have hrun : Step.Runs step (newConversation.begin "hi") execRun (.ok ()) := by
    refine .say rfl (.ask rfl _ (.ask rfl _ (.say rfl ?_)))
    -- The directives are carried out, and the turn is closed with its question.
    refine .silent rfl (.ask rfl _ (.silent rfl (.ask rfl _ ?_)))
    -- The answer is the prompt of the turn that hears nothing.
    exact .silent rfl (.say rfl (.ask rfl _ (.ask rfl _ (.ask rfl _ (.finished rfl)))))
  obtain ⟨xs, stop, hturns⟩ := turns_of_run hrun
  refine ⟨hrun, xs, stop, hturns, ?_⟩
  have hlength := congrArg List.length hturns.started
  rw [List.length_map] at hlength
  exact hlength.symm

end Conversation

end ChatRelay
