import ChatRelay.Engine
import ChatRelay.Proofs.Calls
import ChatRelay.Proofs.Posting

/-!
# Errands on the chat platform

All that the chat platform is asked for belongs to one of four kinds of errand: posting output that
was held back, a directive that does something by itself, a question of the agent, and an apology.
`Errand.Asks` lists the requests of each errand and what it has asked before each of them, so that a
request which needs the reply to another one names it.

Among directives an errand stands behind all that was carried out before it (`Errand.Stands`). The
main statement is `Outbox.errand_of_dispatch`: whatever directives ask of the chat platform, some
errand among them asks.
-/

namespace ChatRelay

open Dialogue (Event)
open Delivery (sendCalls reactCalls Arrived)

/-- What the chat platform is asked for. -/
inductive Errand where
  /-- To post the output of directives that were held back. -/
  | output (run : List Directive)
  /-- To do what a directive does by itself. -/
  | directive (d : Directive)
  /-- To answer a question of the agent. -/
  | question (f : Feedback)
  /-- To apologise for a unit of work that has failed. -/
  | apology

/-- A request for a page of the history of a channel. -/
def Chat.Request.IsPage (channel : String) (q : Chat.Request) : Prop :=
  ∃ limit before, q = .history channel limit before

namespace Errand

/-- After some messages were sent and accepted, this is the next one. -/
structure IsNext (ms : List (String × List String))
    (sends : List ((String × List String) × Except Failure (Option String)))
    (m : String × List String) : Prop where
  inOrder : sends.map Prod.fst ++ [m] <+: ms
  accepted : ∀ s ∈ sends, ∃ id, s.2 = .ok id

/-- What an errand asks of the chat platform, after all that it has asked before. -/
inductive Asks (place : Place) : Errand → List (Event Chat.service) → Chat.Request → Prop where
  /-- The messages that the output makes are sent to the output channel. -/
  | post {run sends m} (next : IsNext (Pending.ofRun run).messages sends m) :
      Asks place (.output run) (sendCalls place.outputChannelId sends)
        (.send place.outputChannelId m.1 m.2)
  /-- The emojis of the output are put on the last message that was sent for it. -/
  | decorate {run sends reactions id emoji}
      (arrived : Arrived (Pending.ofRun run).messages sends (some id))
      (next : reactions.map Prod.fst ++ [(id, emoji)] <+:
        (Pending.ofRun run).emojis.map (id, ·)) :
      Asks place (.output run)
        (sendCalls place.outputChannelId sends ++ reactCalls place.outputChannelId reactions)
        (.react place.outputChannelId id emoji)
  | react {messageId emoji} :
      Asks place (.directive (.reaction messageId emoji false)) []
        (.react place.channelId messageId emoji)
  | unreact {messageId emoji} :
      Asks place (.directive (.reaction messageId emoji true)) []
        (.unreact place.channelId messageId emoji)
  /-- Before a message is deleted it is fetched, and the relay asks who it is itself. -/
  | inspect {messageId} :
      Asks place (.directive (.delete messageId)) [] (.fetch place.channelId messageId)
  | identify {messageId} (message : Message) :
      Asks place (.directive (.delete messageId))
        [.asked (.fetch place.channelId messageId) (.ok message)] .ownUserId
  | delete {messageId} (message : Message) (own : String) (isOwn : message.authorId = own) :
      Asks place (.directive (.delete messageId))
        [.asked (.fetch place.channelId messageId) (.ok message), .asked .ownUserId (.ok own)]
        (.delete place.channelId messageId)
  | send {message sends m}
      (next : IsNext ((Chunk.split Chunk.maxLength message).map (·, [])) sends m) :
      Asks place (.directive (.send message)) (sendCalls place.channelId sends)
        (.send place.channelId m.1 m.2)
  /-- Before a message is sent to another channel, that channel is looked up. -/
  | lookUp {ref message} : Asks place (.directive (.sendTo ref message)) [] (.resolve ref)
  | sendTo {ref message sends m} (channel : Chat.Channel)
      (next : IsNext ((Chunk.split Chunk.maxLength message).map (·, [])) sends m) :
      Asks place (.directive (.sendTo ref message))
        (.asked (.resolve ref) (.ok (some channel)) :: sendCalls channel.id sends)
        (.send channel.id m.1 m.2)
  | exec {messageId} :
      Asks place (.question (.exec messageId)) [] (.fetch place.channelId messageId)
  /-- The history of the channel itself. -/
  | page {request pages limit before} (here : request.channel.getD "" = "")
      (earlier : ∀ q ∈ pages.filterMap Event.request?, Chat.Request.IsPage place.channelId q) :
      Asks place (.question (.history request)) pages (.history place.channelId limit before)
  /-- The history of another channel, which is looked up first. -/
  | lookUpHistory {request ref} (other : request.channel = some ref) :
      Asks place (.question (.history request)) [] (.resolve ref)
  | pageOf {request ref pages limit before} (other : request.channel = some ref)
      (channel : Chat.Channel)
      (earlier : ∀ q ∈ pages.filterMap Event.request?, Chat.Request.IsPage channel.id q) :
      Asks place (.question (.history request))
        (.asked (.resolve ref) (.ok (some channel)) :: pages) (.history channel.id limit before)
  | apologise : Asks place .apology [] (.send place.channelId Engine.errorReply [])

end Errand

open Errand (IsNext)

namespace Outbox

variable {place : Place} {os : List (Event Chat.service)} {q : Chat.Request}

/-! ## Single errands -/

/-- Messages are sent one after the other, as long as they are accepted. -/
theorem asksAfter_sendAll {channel : String} {last : Option String}
    {ms : List (String × List String)} (h : (sendAll channel last ms).AsksAfter os q) :
    ∃ sends m, os = sendCalls channel sends ∧ IsNext ms sends m ∧ q = .send channel m.1 m.2 := by
  induction ms generalizing last os with
  | nil => cases h
  | cons m rest ih =>
    cases h with
    | here =>
      refine ⟨[], m, rfl, ⟨?_, nofun⟩, rfl⟩
      exact ⟨rest, rfl⟩
    | asked reply later =>
      match reply with
      | .error e => cases later
      | .ok (id : Option String) =>
        obtain ⟨sends, m', rfl, hnext, rfl⟩ := ih later
        refine ⟨(m, .ok id) :: sends, m', rfl, ⟨?_, ?_⟩, rfl⟩
        · exact (List.prefix_cons_inj m).mpr hnext.inOrder
        · exact List.forall_mem_cons.mpr ⟨⟨id, rfl⟩, hnext.accepted⟩

/-- Emojis are put on a message one after the other. -/
theorem asksAfter_reactAll {channel message : String} {emojis : List String}
    (h : (reactAll channel message emojis).AsksAfter os q) :
    ∃ reactions emoji, os.filter Event.isAsked = reactCalls channel reactions ∧
      reactions.map Prod.fst ++ [(message, emoji)] <+: emojis.map (message, ·) ∧
      q = .react channel message emoji := by
  induction emojis generalizing os with
  | nil => cases h
  | cons emoji rest ih =>
    -- Whatever became of the first emoji, the others come after it.
    have hlater : ∀ {os} (reply : Chat.service.Reply (.react channel message emoji)),
        (reactAll channel message rest).AsksAfter os q →
        ∃ reactions emoji', Event.asked (P := Chat.service) (.react channel message emoji) reply ::
            os.filter Event.isAsked = reactCalls channel reactions ∧
          reactions.map Prod.fst ++ [(message, emoji')] <+:
            (emoji :: rest).map (message, ·) ∧ q = .react channel message emoji' := by
      intro os reply later
      obtain ⟨reactions, emoji', hcalls, hnext, rfl⟩ := ih later
      refine ⟨((message, emoji), reply) :: reactions, emoji', ?_, ?_, rfl⟩
      · exact congrArg (Event.asked (P := Chat.service) (.react channel message emoji) reply :: ·)
          hcalls
      · exact (List.prefix_cons_inj (message, emoji)).mpr hnext
    cases h with
    | here => exact ⟨[], emoji, rfl, ⟨rest.map (message, ·), rfl⟩, rfl⟩
    | asked reply later =>
      match reply with
      | .ok () => exact hlater (.ok ()) later
      | .error e =>
        cases later with
        | said later =>
          have hrest := hlater (.error e) later
          exact hrest

/-- Posting output asks what the errand to post it asks. -/
theorem asksAfter_flush {run : List Directive}
    (h : (flush place (.ofRun run)).AsksAfter os q) :
    (Errand.output run).Asks place (os.filter Event.isAsked) q := by
  unfold flush at h
  split at h
  · cases h
  · rename_i hsome
    cases h with
    | said h =>
      rcases Dialogue.asksAfter_bind h with hsend | ⟨first, second, r, rfl, hfirst, hsecond⟩
      · obtain ⟨sends, m, rfl, hnext, rfl⟩ := asksAfter_sendAll hsend
        rw [List.filter_cons_of_neg (by exact Bool.false_ne_true), Delivery.filter_sendCalls]
        exact .post hnext
      · obtain ⟨sends, rfl, -, -, hsent⟩ := tried_of_plays hfirst
        match r with
        | .error e => exact absurd hsecond Dialogue.not_asksAfter_note
        | .ok none => cases hsecond
        | .ok (some id) =>
          obtain ⟨reactions, emoji, hcalls, hnext, rfl⟩ := asksAfter_reactAll hsecond
          rw [List.filter_cons_of_neg (by exact Bool.false_ne_true), List.filter_append,
            Delivery.filter_sendCalls, hcalls]
          rcases hsent (some id) rfl with harrived | ⟨hnone, -⟩
          · exact .decorate harrived hnext
          · exact absurd (List.isEmpty_iff.mpr hnone) hsome

/-- A message is sent in chunks. -/
theorem asksAfter_sendMessage {tag channel message : String}
    (h : (sendMessage tag channel message).AsksAfter os q) :
    ∃ sends m, os = sendCalls channel sends ∧
      IsNext ((Chunk.split Chunk.maxLength message).map (·, [])) sends m ∧
      q = .send channel m.1 m.2 := by
  unfold sendMessage at h
  split at h
  · exact absurd h Dialogue.not_asksAfter_note
  · rcases Dialogue.asksAfter_bind h with hsend | ⟨first, second, r, -, -, hsecond⟩
    · exact asksAfter_sendAll hsend
    · cases r with
      | error e => exact absurd hsecond Dialogue.not_asksAfter_note
      | ok _ => cases hsecond

/-- What a reaction asks is right after what it has asked before. -/
theorem asksAfter_reaction {messageId emoji : String} {remove : Bool}
    (h : (reaction place messageId emoji remove).AsksAfter os q) :
    (Errand.directive (.reaction messageId emoji remove)).Asks place (os.filter Event.isAsked)
      q := by
  cases h with
  | here =>
    cases remove with
    | true => exact .unreact
    | false => exact .react
  | asked reply later =>
    cases reply with
    | error e => exact absurd later Dialogue.not_asksAfter_note
    | ok _ => cases later

/-- A message is deleted only after it was fetched and turned out to be the relay's own. -/
theorem asksAfter_delete {messageId : String} (h : (delete place messageId).AsksAfter os q) :
    (Errand.directive (.delete messageId)).Asks place (os.filter Event.isAsked) q := by
  cases h with
  | here => exact .inspect
  | asked reply later =>
    match reply with
    | .error e => exact absurd later Dialogue.not_asksAfter_note
    | .ok (message : Message) =>
      cases later with
      | here => exact .identify message
      | asked reply later =>
        match reply with
        | .error e => exact absurd later Dialogue.not_asksAfter_note
        | .ok (own : String) =>
          dsimp only at later
          split at later
          · rename_i hown
            cases later with
            | here => exact .delete message own hown
            | asked reply later =>
              cases reply with
              | error e => exact absurd later Dialogue.not_asksAfter_note
              | ok _ => cases later
          · exact absurd later Dialogue.not_asksAfter_note

/-- What a message to another channel asks is right after what it has asked before. -/
theorem asksAfter_sendTo {ref message : String} (h : (sendTo ref message).AsksAfter os q) :
    (Errand.directive (.sendTo ref message)).Asks place (os.filter Event.isAsked) q := by
  cases h with
  | here => exact .lookUp
  | asked reply later =>
    match reply with
    | .error e => exact absurd later Dialogue.not_asksAfter_note
    | .ok none => exact absurd later Dialogue.not_asksAfter_note
    | .ok (some (channel : Chat.Channel)) =>
      obtain ⟨sends, m, rfl, hnext, rfl⟩ := asksAfter_sendMessage later
      rw [List.filter_cons_of_pos rfl, Delivery.filter_sendCalls]
      exact .sendTo channel hnext

/-- A directive that does something by itself asks what the errand to do it asks. -/
theorem asksAfter_act {d : Directive} {act : Act Unit} (hd : d.act? place = some act)
    (h : act.AsksAfter os q) : (Errand.directive d).Asks place (os.filter Event.isAsked) q := by
  cases d with
  | reaction messageId emoji remove =>
    cases hd
    exact asksAfter_reaction h
  | delete messageId =>
    cases hd
    exact asksAfter_delete h
  | send message =>
    cases hd
    obtain ⟨sends, m, rfl, hnext, rfl⟩ := asksAfter_sendMessage h
    rw [Delivery.filter_sendCalls]
    exact .send hnext
  | sendTo ref message =>
    cases hd
    exact asksAfter_sendTo h
  | text _ | media _ | reactions _ | nop | history _ | exec _ => cases hd

/-- What a message that is read as a file asks is right after what it has asked before. -/
theorem asksAfter_fetchForExec {messageId : String}
    (h : (fetchForExec place messageId).AsksAfter os q) :
    (Errand.question (.exec messageId)).Asks place (os.filter Event.isAsked) q := by
  cases h with
  | here => exact .exec
  | asked reply later =>
    match reply with
    | .error e =>
      cases later with
      | said later => cases later
    | .ok (message : Message) => cases later

end Outbox

namespace History

variable {place : Place} {os : List (Event Chat.service)} {q : Chat.Request}

/-- Only pages of the channel are asked for when messages are skipped. -/
theorem asks_skip (channel : String) (before : Option String) (left : Nat) :
    (skip channel before left).Asks (Chat.Request.IsPage channel) := by
  induction left using Nat.strongRecOn generalizing before with
  | ind left ih =>
    unfold skip
    split
    · trivial
    · refine ⟨⟨_, _, rfl⟩, fun reply => ?_⟩
      match reply with
      | .error e => trivial
      | .ok [] => trivial
      | .ok (m :: ms) => exact ih _ (by omega) _

/-- Collecting a history asks for pages of its channel. -/
theorem asks_collect (channel : String) (before : Option String) (left : Nat) :
    (collect channel before left).Asks (Chat.Request.IsPage channel) := by
  induction left using Nat.strongRecOn generalizing before with
  | ind left ih =>
    unfold collect
    split
    · trivial
    · refine ⟨⟨_, _, rfl⟩, fun reply => ?_⟩
      match reply with
      | .error e => trivial
      | .ok [] => trivial
      | .ok (m :: ms) => exact Dialogue.asks_bind (ih _ (by omega) _) fun _ => trivial

/-- Only pages of the channel are asked for when its transcript is made. -/
theorem asks_transcript (channel : Chat.Channel) (request : HistoryRequest) :
    (transcript channel request).Asks (Chat.Request.IsPage channel.id) := by
  have hmessages : (messages channel.id request).Asks (Chat.Request.IsPage channel.id) := by
    refine Dialogue.asks_bind (asks_skip _ _ _) fun outcome => ?_
    cases outcome with
    | error e => trivial
    | ok before => exact asks_collect _ _ _
  refine Dialogue.asks_bind hmessages fun outcome => ?_
  cases outcome <;> trivial

/-- What the answer to a question about the history asks is right after what it has asked before. -/
theorem asksAfter_answer {request : HistoryRequest} (h : (answer place request).AsksAfter os q) :
    (Errand.question (.history request)).Asks place (os.filter Event.isAsked) q := by
  have hpages : ∀ {channel : Chat.Channel} {os : List (Event Chat.service)},
      (transcript channel request).AsksAfter os q →
      (∃ limit before, q = .history channel.id limit before) ∧
        ∀ q ∈ (os.filter Event.isAsked).filterMap Event.request?,
          Chat.Request.IsPage channel.id q := by
    intro channel os h
    refine ⟨h.asks (asks_transcript channel request), ?_⟩
    rw [Event.requests_of_asked]
    exact h.asks_before (asks_transcript channel request)
  -- The history of the channel itself.
  have hhere : request.channel.getD "" = "" →
      (transcript ⟨place.channelId, place.channelName⟩ request).AsksAfter os q →
      (Errand.question (.history request)).Asks place (os.filter Event.isAsked) q := by
    intro hchannel h
    obtain ⟨⟨limit, before, rfl⟩, hearlier⟩ := hpages h
    exact .page hchannel hearlier
  unfold answer at h
  cases hchannel : request.channel with
  | none =>
    rw [hchannel] at h
    exact hhere (by rw [hchannel]; rfl) h
  | some ref =>
    rw [hchannel] at h
    dsimp only at h
    split at h
    · rename_i hempty
      exact hhere (by rw [hchannel, hempty]; rfl) h
    · cases h with
      | here => exact .lookUpHistory hchannel
      | asked reply later =>
        match reply with
        | .error e =>
          cases later with
          | said later => cases later
        | .ok none => cases later
        | .ok (some (channel : Chat.Channel)) =>
          obtain ⟨⟨limit, before, rfl⟩, hearlier⟩ := hpages later
          exact .pageOf hchannel channel hearlier

end History

/-! ## Errands among directives -/

/-- An errand among directives, and what the chat platform was asked for those before it. Output is
posted where a run of directives that are held back ends. -/
inductive Errand.Stands (place : Place) (ds : List Directive) :
    Errand → List (Event Chat.service) → Prop where
  | output {before run rest os} (split : ds = before ++ run ++ rest)
      (held : ∀ d ∈ run, d.isHeld = true) (first : ∀ d, before.getLast? = some d → d.isHeld = false)
      (last : ∀ d, rest.head? = some d → d.isHeld = false)
      (carried : Outbox.Dispatched place before os) :
      Stands place ds (.output run) (os.filter Event.isAsked)
  | directive {before d rest os} (split : ds = before ++ d :: rest)
      (carried : Outbox.Dispatched place before os) :
      Stands place ds (.directive d) (os.filter Event.isAsked)

namespace Outbox

variable {place : Place} {os : List (Event Chat.service)} {q : Chat.Request}

/-- Nothing is asked for no directive. -/
theorem dispatched_nil (place : Place) : Dispatched place [] [] :=
  .last nofun (posted_of_plays (.done ()))

/-- An errand stands where it stood, behind a run and a directive that does something by itself. -/
theorem stands_behind {run rest : List Directive} {d : Directive} {act : Act Unit}
    {first own earlier : List (Event Chat.service)} {errand : Errand}
    (hrun : ∀ d ∈ run, d.isHeld = true) (hposted : Posted place (.ofRun run) first)
    (hd : d.isHeld = false) (hact : d.act? place = some act) (hown : act.Plays own ())
    (h : errand.Stands place rest earlier) :
    errand.Stands place (run ++ d :: rest)
      (first.filter Event.isAsked ++ own.filter Event.isAsked ++ earlier) := by
  cases h with
  | @output before run' rest' os split held hfirst last carried =>
    have hsplit : run ++ d :: rest = (run ++ d :: before) ++ run' ++ rest' := by
      rw [split, List.append_assoc, List.append_assoc, List.append_assoc, List.cons_append]
    rw [← List.filter_append, ← List.filter_append]
    refine .output hsplit held (fun d' hd' => ?_) last (.next hrun hposted hact hown carried)
    rw [List.getLast?_append, List.getLast?_cons] at hd'
    cases hlast : before.getLast? with
    | none =>
      rw [hlast] at hd'
      cases hd'
      exact hd
    | some d'' =>
      rw [hlast] at hd'
      cases hd'
      exact hfirst _ hlast
  | @directive before d' rest' os split carried =>
    have hsplit : run ++ d :: rest = (run ++ d :: before) ++ d' :: rest' := by
      rw [split, List.append_assoc, List.cons_append]
    rw [← List.filter_append, ← List.filter_append]
    exact .directive hsplit (.next hrun hposted hact hown carried)

/-- Wherever the first run ends, its output is posted. -/
theorem errand_of_flush {run rest : List Directive} (hrun : ∀ d ∈ run, d.isHeld = true)
    (hrest : ∀ d, rest.head? = some d → d.isHeld = false)
    (h : (flush place (.ofRun run)).AsksAfter os q) :
    ∃ errand earlier since, Errand.Stands place (run ++ rest) errand earlier ∧
      errand.Asks place since q ∧ os.filter Event.isAsked = earlier ++ since := by
  have hsplit : run ++ rest = [] ++ run ++ rest := rfl
  exact ⟨.output run, [], _, .output hsplit hrun nofun hrest (dispatched_nil place),
    asksAfter_flush h, rfl⟩

/-- Behind a run that is held back, what directives ask is what errands among them ask. -/
theorem errand_of_play {run ds : List Directive} (hrun : ∀ d ∈ run, d.isHeld = true)
    (h : ((play place (.ofRun run) ds).bind (conclude place)).AsksAfter os q) :
    ∃ errand earlier since, Errand.Stands place (run ++ ds) errand earlier ∧
      errand.Asks place since q ∧ os.filter Event.isAsked = earlier ++ since := by
  induction ds generalizing run os with
  | nil =>
    have hflush : ((flush place (.ofRun run)).bind fun _ => .done none).AsksAfter os q := h
    exact errand_of_flush hrun nofun (Dialogue.asksAfter_of_bind_done hflush)
  | cons d rest ih =>
    rcases d.kinds place with hheld | ⟨act, hact⟩ | ⟨question, hquestion⟩
    -- What is held back makes the run longer.
    · have hmore : ∀ d' ∈ run ++ [d], d'.isHeld = true :=
        List.forall_mem_append.mpr ⟨hrun, List.forall_mem_singleton.mpr hheld⟩
      rw [play_of_held hheld, Pending.hold_ofRun hheld] at h
      rw [List.append_cons]
      exact ih hmore h
    -- The output of the run is posted, then the directive acts, and a new run begins.
    · have hd : d.isHeld = false := Directive.not_held_of_act hact
      rw [play_of_act hact, Dialogue.bind_assoc] at h
      rcases Dialogue.asksAfter_bind h with hflush | ⟨first, second, _, rfl, hfirst, hsecond⟩
      · refine errand_of_flush hrun (fun d' hd' => ?_) hflush
        cases hd'
        exact hd
      · have hposted := posted_of_plays hfirst
        rw [Dialogue.bind_assoc] at hsecond
        rcases Dialogue.asksAfter_bind hsecond with hown | ⟨own, later, _, rfl, hown, hlater⟩
        · exact ⟨.directive d, _, _, .directive rfl (.last hrun hposted),
            asksAfter_act hact hown, List.filter_append _ _⟩
        · have hnone : ∀ d ∈ ([] : List Directive), d.isHeld = true := List.forall_mem_nil _
          obtain ⟨errand, earlier, since, hstands, hasks, hos⟩ := ih hnone hlater
          refine ⟨errand, _, since, stands_behind hrun hposted hd hact hown hstands, hasks, ?_⟩
          rw [List.filter_append, List.filter_append, hos, List.append_assoc, List.append_assoc]
    -- The output of the run is posted, and nothing comes behind the question.
    · rw [play_of_question hquestion, Dialogue.bind_assoc] at h
      refine errand_of_flush hrun (fun d' hd' => ?_) (Dialogue.asksAfter_of_bind_done h)
      cases hd'
      exact Directive.not_held_of_question hquestion

/-- **Whatever directives ask of the chat platform, an errand among them asks**, after all that was
asked for those before it. -/
theorem errand_of_dispatch {ds : List Directive} (h : (dispatch place ds).AsksAfter os q) :
    ∃ errand earlier since, Errand.Stands place ds errand earlier ∧ errand.Asks place since q ∧
      os.filter Event.isAsked = earlier ++ since := by
  rw [dispatch_eq] at h
  have hnone : ∀ d ∈ ([] : List Directive), d.isHeld = true := List.forall_mem_nil _
  exact errand_of_play hnone h

end Outbox

end ChatRelay
