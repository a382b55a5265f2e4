import ChatRelay.Proofs.Errand
import ChatRelay.Proofs.Reset
import ChatRelay.Proofs.Working

/-!
# Calls stay in their channel

Every request to the chat platform is made for an errand of a unit of work, and an errand asks for
nothing but what it needs: output goes to the log channel, where the profile has one, and else to
the channel of the unit of work; whatever concerns another channel names it by what looking it up
has returned, for the same directive.

The main statement is `Situation.calls_in_place`.
-/

namespace ChatRelay

open Dialogue (Event)

/-- The channel that a request is about, if it is about one. -/
def Chat.Request.channel? : Chat.Request → Option String
  | .ownUserId | .resolve _ => none
  | .send channel _ _ | .react channel _ _ | .unreact channel _ _ | .fetch channel _
  | .history channel _ _ | .delete channel _ => some channel

namespace Errand

/-- Output goes to the output channel only. -/
theorem Asks.channel_of_output {place : Place} {run : List Directive}
    {since : List (Event Chat.service)} {q : Chat.Request}
    (h : (Errand.output run).Asks place since q) : q.channel? = some place.outputChannelId := by
  cases h with
  | post next => rfl
  | decorate arrived next => rfl

end Errand

namespace Work

variable (work : Work)

/-- Output goes to the log channel of the profile. -/
theorem outputChannelId_of_log {log : String} (h : work.profile.logChannel = some log)
    (hlog : log ≠ "") : work.place.outputChannelId = log := by
  simp only [place, Place.of, h, hlog, if_false]

/-- Without a log channel output goes to the channel of the unit of work. -/
theorem outputChannelId_of_no_log (h : work.profile.logChannel.getD "" = "") :
    work.place.outputChannelId = work.item.channelId := by
  unfold place Place.of
  cases hlog : work.profile.logChannel with
  | none => rfl
  | some log =>
    rw [hlog] at h
    simp only [show log = "" from h, if_true]

end Work

namespace Doing

/-- The errand that a worker is on for a unit of work, and what it has asked the chat platform for
it so far. -/
inductive On (x : Doing) (work : Work) : Errand → List (Event Chat.service) → Prop where
  /-- An errand among the directives of the event that was heard last. -/
  | directives {e ds errand earlier since} (at_work : x.work = some work)
      (heard : x.stage = .heeding e) (kind : e.kind = .text)
      (read : (Response.read e.text).directives = .ok ds)
      (stands : errand.Stands work.place ds earlier) (talk : x.talk = earlier ++ since) :
      On x work errand since
  /-- The question of the last event of a turn that was closed. -/
  | question {e question} (at_work : x.work = some work) (closed : x.stage = .closed e)
      (asks : e.question? = some question) : On x work (.question question) x.talk
  | apology (failed : x.failed = some work) : On x work .apology []

variable {x : Doing} {work : Work}

/-- What the chat platform may be asked at a stage is what an errand asks. -/
theorem on_errand (hwork : x.work = some work) {q : Chat.Request}
    (h : x.stage.Allows work.place x.talk q) :
    ∃ errand since, x.On work errand since ∧ errand.Asks work.place since q := by
  cases hstage : x.stage with
  | beginning =>
    rw [hstage] at h
    exact h.elim
  | heeding e =>
    rw [hstage] at h
    obtain ⟨ds, os, hkind, hread, hcalls, hos⟩ := h
    obtain ⟨errand, earlier, since, hstands, hasks, hsplit⟩ := Outbox.errand_of_dispatch hcalls
    exact ⟨errand, since, .directives hwork hstage hkind hread hstands (hos.trans hsplit), hasks⟩
  | closed e =>
    rw [hstage] at h
    obtain ⟨question, hquestion, hcalls⟩ := h
    refine ⟨.question question, x.talk, .question hwork hstage hquestion, ?_⟩
    cases question with
    | history request =>
      obtain ⟨os, hcalls, hos⟩ := hcalls
      rw [hos]
      exact History.asksAfter_answer hcalls
    | exec messageId =>
      obtain ⟨os, hcalls, hos⟩ := hcalls
      rw [hos]
      exact Outbox.asksAfter_fetchForExec hcalls

end Doing

namespace Situation

variable {config : Config} {systemPrompt : Option String} {sessions : SessionTable}
  {ms : List Move} {i : Nat} {c : String} {before after : List Deed} {q : Chat.Request}

/-- Every request to the chat platform belongs to an errand of a unit of work. -/
theorem errand_of_call
    (h : ((start config systemPrompt sessions).run ms).deedsOf i c =
      before ++ .asked (.chat q) :: after) :
    ∃ work errand since, work.IsAdmitted config c ∧ (Doing.of before).On work errand since ∧
      errand.Asks work.place since q := by
  have hadmitted : ∀ {work}, (Doing.of before).work = some work ∨
      (Doing.of before).failed = some work → work.IsAdmitted config c := by
    intro work hwork
    have htook : .took work ∈ ((start config systemPrompt sessions).run ms).deedsOf i c := by
      rw [h]
      exact List.mem_append_left _ (Doing.took_of_work hwork)
    exact admitted_of_took htook
  rcases permitted h with ⟨work, hwork, hallows⟩ | ⟨work, hfailed, hplea⟩
  · obtain ⟨errand, since, hon, hasks⟩ := Doing.on_errand hwork hallows
    exact ⟨work, errand, since, hadmitted (.inl hwork), hon, hasks⟩
  · have hwork := hadmitted (.inr hfailed)
    refine ⟨work, .apology, [], hwork, .apology hfailed, ?_⟩
    cases hplea
    rw [← hwork.channel]
    exact .apologise

/-- **Calls stay in their channel.** In every run, whatever a worker of a channel asks of the chat
platform belongs to an errand of the unit of work that it is at, or that has failed, and is what
that errand asks after all that it has asked before. Output goes to the log channel, if there is
one, and else to the channel itself. Where the log channel is another channel, no output ever goes
to the channel itself. -/
theorem calls_in_place
    (h : ((start config systemPrompt sessions).run ms).deedsOf i c =
      before ++ .asked (.chat q) :: after) :
    ∃ work errand since, work.IsAdmitted config c ∧ (Doing.of before).On work errand since ∧
      errand.Asks work.place since q ∧ work.place.channelId = c ∧
      (∀ log, work.profile.logChannel = some log → log ≠ "" →
        work.place.outputChannelId = log) ∧
      (work.profile.logChannel.getD "" = "" → work.place.outputChannelId = c) ∧
      ∀ log run, work.profile.logChannel = some log → log ≠ "" → log ≠ c →
        errand = .output run → q.channel? = some log ∧ q.channel? ≠ some c := by
  obtain ⟨work, errand, since, hadmitted, hon, hasks⟩ := errand_of_call h
  have hlogged : ∀ log, work.profile.logChannel = some log → log ≠ "" →
      work.place.outputChannelId = log := fun log => work.outputChannelId_of_log
  refine ⟨work, errand, since, hadmitted, hon, hasks, hadmitted.channel, hlogged, ?_, ?_⟩
  · intro hnone
    exact (work.outputChannelId_of_no_log hnone).trans hadmitted.channel
  · rintro log run hlog hne hother rfl
    have hchannel : q.channel? = some log := by
      rw [hasks.channel_of_output, hlogged log hlog hne]
    refine ⟨hchannel, fun hc => hother ?_⟩
    rw [hchannel] at hc
    exact Option.some_inj.mp hc

/-- A chat platform that accepts all messages, and on which the relay has written every message. -/
def owning : Outside.Answer
  | .chat .ownUserId => .ok "777"
  | .chat (.fetch _ id) =>
    .ok { id, author := "relay", authorId := "777", content := "", attachments := []
          createdAt := ⟨2024, 1, 1, 0, 0, 0, 0, none⟩ }
  | .chat (.send _ _ _) => .ok (some "9")
  | _ => .error (.service "" "")

/-- In a channel with a log channel the agent writes a line of text and has a message deleted. -/
def deletingRun : Situation :=
  let item : Incoming := .reaction
    { emoji := "x", messageId := "1", channelId := "100", channelName := "general", userId := "42" }
  let saying := reporting (some { kind := .text, text := "a\n!discord delete 55" })
  let moves : List Move := [.receive item, .work 1, .work 1, .work 1, .work 1,
    .reply 1 (reporting none), .work 1, .reply 1 saying, .work 1, .work 1, .work 1,
    .reply 1 owning, .work 1, .reply 1 owning, .work 1, .reply 1 owning, .work 1]
  let profile : ChannelProfile := { name := "general", logChannel := some "200" }
  (start { token := "", operator := "42", model := "", channels := [profile] } none .empty).run
    moves

/-- In that run the line goes to the log channel. -/
theorem calls_in_place_of_deletingRun : ∃ before after,
    deletingRun.deedsOf 1 "100" = before ++ .asked (.chat (.send "200" "a" [])) :: after ∧
      ∃ work errand since, (Doing.of before).On work errand since ∧
        errand.Asks work.place since (.send "200" "a" []) ∧ work.place.channelId = "100" := by
  obtain ⟨before, after, hdeeds⟩ : ∃ before after, deletingRun.deedsOf 1 "100" =
      before ++ .asked (.chat (.send "200" "a" [])) :: after :=
    ⟨[.took _, .said _, .asked _, .heard (.agent (.start _)) (.ok ()), .asked _,
      .heard (.agent .next) (.ok (some _)), .said _, .said _],
      [.heard (.chat (.send _ _ _)) (.ok _), .asked _, .heard (.chat (.fetch _ _)) (.ok _),
      .asked _, .heard (.chat .ownUserId) (.ok _), .asked _], rfl⟩
  obtain ⟨work, errand, since, -, hon, hasks, hchannel, -⟩ := calls_in_place hdeeds
  exact ⟨before, after, hdeeds, work, errand, since, hon, hasks, hchannel⟩

end Situation

end ChatRelay
