import ChatRelay.Discord.Client
import ChatRelay.Proofs.Working

/-!
# Only the operator is heard

What happens on Discord reaches the engine through the connection, which hands over messages and
reactions and resets a channel when the command for it is called. A `Gateway` is the connection with
the engine behind it, and its runs are all the orders in which things can happen on Discord and in
the engine.

Events of bots, of other users, and of channels that are no text channels or have no profile are
foreign (`Discord.Client.isForeign`). A run from which all foreign events are taken out goes the
same way: nothing is different but that nobody was turned away (`Gateway.run_purge`). The main
statement is `Gateway.operator_only`.
-/

namespace ChatRelay

/-! ## Foreign events -/

/-- Whether an event is a message or a reaction of a bot, of another user than the operator, or of a
channel that is no text channel or has no profile, or the call of a command by another user. A
reaction in a channel that is not known counts as one in a channel that is no text channel. -/
def Discord.Client.isForeign (client : Client) (config : Config) : Event → Bool
  | .ready _ => false
  | .message channel m =>
    m.author.isBot || toString m.author.id != config.operator ||
      (!channel.isText || (config.findChannel channel.shownName).isNone)
  | .reaction r =>
    r.isBotMember.getD (client.ownUser = some r.user) || toString r.user != config.operator ||
      match client.known.find? fun channel => channel.id == r.channel with
      | none => true
      | some channel => !channel.isText || (config.findChannel channel.shownName).isNone
  | .clear user _ => toString user != config.operator

/-- Whether an event came in and was not admitted, without a line in the log. -/
def Occurrence.isTurnedAway : Occurrence → Bool
  | .received _ false [] => true
  | _ => false

/-- What is logged with an occurrence. -/
def Occurrence.logged : Occurrence → List String
  | .received _ _ notes => notes
  | .reset _ events => events.filterMap Dialogue.Event.line?
  | .worked _ _ (.said line) => [line]
  | .worked _ _ _ => []

namespace Situation

/-- Only a move that takes an event in has it on record, and there it says whether the event was
admitted. -/
theorem received_of_after {s : Situation} {m : Move} {os : List Occurrence} {item : Incoming}
    {admitted : Bool} {notes : List String} (h : (s.after m).record = s.record ++ os)
    (ho : .received item admitted notes ∈ os) :
    m = .receive item ∧ (s.engine.admit? item).isSome = admitted := by
  cases m with
  | receive item' =>
    cases ha : s.engine.admit? item' with
    | none =>
      rw [after_receive_of_not_admitted ha] at h
      rw [← List.append_cancel_left h, List.mem_singleton] at ho
      cases ho
      exact ⟨rfl, by rw [ha]; rfl⟩
    | some profile =>
      rw [after_receive_of_admitted ha] at h
      rw [← List.append_cancel_left h, List.mem_singleton] at ho
      cases ho
      exact ⟨rfl, by rw [ha]; rfl⟩
  | reset c answer =>
    simp only [after] at h
    split at h
    · rw [← List.append_cancel_left h, List.mem_singleton] at ho
      cases ho
    · rw [List.self_eq_append_right.mp h] at ho
      cases ho
  | work i =>
    simp only [after] at h
    split at h
    · obtain ⟨deeds, hdeeds⟩ := s.stepped_record i _ (s.engine.step i)
      rw [← List.append_cancel_left (hdeeds.symm.trans h)] at ho
      obtain ⟨deed, -, hdeed⟩ := List.mem_map.mp ho
      cases hdeed
    · rw [List.self_eq_append_right.mp h] at ho
      cases ho
  | reply i answer =>
    simp only [after] at h
    split at h
    · rw [← List.append_cancel_left h] at ho
      cases List.mem_singleton.mp ho
    · rw [List.self_eq_append_right.mp h] at ho
      cases ho

/-- The situation as if nobody had been turned away. -/
def cleared (s : Situation) : Situation :=
  { s with record := s.record.filter (!·.isTurnedAway) }

/-- Where nobody is turned away, it makes no difference whether somebody was before. -/
theorem after_cleared {s : Situation} {m : Move}
    (h : ∀ item, m = .receive item → (s.engine.admit? item).isSome = true) :
    s.cleared.after m = (s.after m).cleared := by
  obtain ⟨os, hos⟩ := after_record s m
  have hrecord : (s.after m).record = s.record ++ os := congrArg record (hos s.record)
  have hkept : os.filter (!·.isTurnedAway) = os := by
    refine List.filter_eq_self.mpr fun o ho => ?_
    match o with
    | .received item false [] =>
      obtain ⟨hm, hpass⟩ := received_of_after hrecord ho
      rw [h item hm] at hpass
      cases hpass
    | .received _ true _ | .received _ false (_ :: _) | .reset _ _ | .worked _ _ _ => rfl
  have hcleared : s.cleared.after m =
      { s.after m with record := s.record.filter (!·.isTurnedAway) ++ os } := hos _
  rw [hcleared, cleared, hrecord, List.filter_append, hkept]

/-- Turning somebody away makes no difference. -/
theorem cleared_of_not_admitted {s : Situation} {item : Incoming}
    (h : s.engine.admit? item = none) : (s.after (.receive item)).cleared = s.cleared := by
  rw [after_receive_of_not_admitted h, cleared, List.filter_append]
  simp only [List.filter_cons, Occurrence.isTurnedAway, Bool.not_true, Bool.false_eq_true, if_false,
    List.filter_nil, List.append_nil, cleared]

end Situation

/-! ## The connection and the engine -/

/-- The connection to Discord, and what stands in the engine behind it. -/
structure Gateway where
  client : Discord.Client
  situation : Situation

namespace Gateway

/-- One move of a run. -/
inductive Move where
  /-- Something happens on Discord, and the store answers if it is asked. -/
  | happens (event : Discord.Event) (answer : Outside.Answer)
  /-- The connection learns who it is and which channels there are. -/
  | learns (ownUser : Option Int) (known : List Discord.Channel)
  /-- A worker that waits for nothing does its next step. -/
  | work (i : Nat)
  /-- The request of a worker is answered. -/
  | reply (i : Nat) (answer : Outside.Answer)

/-- What the connection does. Answers to commands and lines of its own log do not reach the
engine. -/
def perform (answer : Outside.Answer) (s : Situation) : Discord.Action → Situation
  | .receive item => s.after (.receive item)
  | .reset channel => s.after (.reset channel answer)
  | .respond _ _ | .log _ => s

/-- The connection of a relay that has just been put together. -/
def start (config : Config) (systemPrompt : Option String) (sessions : SessionTable) : Gateway :=
  { client := { operator := config.operator }
    situation := Situation.start config systemPrompt sessions }

/-- What the gateway is after a move. An event does all that the connection does because of it. -/
def after (g : Gateway) : Move → Gateway
  | .happens event answer =>
    { g with situation := (g.client.actions event).foldl (perform answer) g.situation }
  | .learns ownUser known => { g with client := { g.client with ownUser, known } }
  | .work i => { g with situation := g.situation.after (.work i) }
  | .reply i answer => { g with situation := g.situation.after (.reply i answer) }

/-- What the gateway is after moves. -/
def run (g : Gateway) (ms : List Move) : Gateway := ms.foldl after g

/-- Whether a move is a foreign event. -/
def isForeign (g : Gateway) : Move → Bool
  | .happens event _ => g.client.isForeign g.situation.engine.config event
  | _ => false

/-- Moves without the foreign events. -/
def purge (g : Gateway) : List Move → List Move
  | [] => []
  | m :: ms => if g.isForeign m then (g.after m).purge ms else m :: (g.after m).purge ms

/-- All that happens on Discord, and what the connection knows then. -/
def trail (g : Gateway) : List Move → List (Discord.Client × Discord.Event)
  | [] => []
  | m :: ms =>
    match m with
    | .happens event _ => (g.client, event) :: (g.after m).trail ms
    | _ => (g.after m).trail ms

/-- The gateway as if nobody had been turned away. -/
def cleared (g : Gateway) : Gateway := { g with situation := g.situation.cleared }

/-- The connection belongs to the operator that the engine obeys. -/
def Wired (g : Gateway) : Prop := g.client.operator = g.situation.engine.config.operator

/-! ## Moves -/

variable {g : Gateway} {m : Move}

/-- Nothing that the connection does changes the settings. -/
theorem perform_config (answer : Outside.Answer) (s : Situation) (action : Discord.Action) :
    (perform answer s action).engine.config = s.engine.config := by
  cases action with
  | receive item => exact (Situation.settings_after s _).1
  | reset channel => exact (Situation.settings_after s _).1
  | respond text hidden | log line => rfl

/-- However much the connection does, the settings stay as they are. -/
theorem foldl_config (answer : Outside.Answer) (s : Situation) (actions : List Discord.Action) :
    (actions.foldl (perform answer) s).engine.config = s.engine.config := by
  induction actions generalizing s with
  | nil => rfl
  | cons action rest ih => exact (ih _).trans (perform_config answer s action)

/-- No move changes the settings. -/
theorem after_config (g : Gateway) (m : Move) :
    (g.after m).situation.engine.config = g.situation.engine.config := by
  cases m with
  | happens event answer => exact foldl_config _ _ _
  | learns ownUser known => rfl
  | work i => exact (Situation.settings_after _ _).1
  | reply i answer => exact (Situation.settings_after _ _).1

/-- After every move the connection belongs to the operator that the engine obeys. -/
theorem Wired.after (h : g.Wired) (m : Move) : (g.after m).Wired := by
  have hoperator : (g.after m).client.operator = g.client.operator := by cases m <;> rfl
  rw [Wired, after_config, hoperator]
  exact h

/-- What the engine turns away. -/
theorem admit?_isSome (e : Engine) (item : Incoming) :
    (e.admit? item).isSome = !(item.isBot || item.userId != e.config.operator ||
      (e.config.findChannel item.channelName).isNone) := by
  unfold Engine.admit?
  cases hforeign : item.isBot || item.userId != e.config.operator with
  | true => rfl
  | false => simp

/-- An event that the engine gets is admitted, unless it is foreign. -/
theorem admitted_iff {event : Discord.Event} {item : Incoming}
    (h : .receive item ∈ g.client.actions event) :
    (g.situation.engine.admit? item).isSome =
      !g.client.isForeign g.situation.engine.config event := by
  rw [admit?_isSome]
  cases event with
  | ready user => simp [Discord.Client.actions] at h
  | message channel m =>
    simp only [Discord.Client.actions] at h
    split at h
    · rename_i htext
      obtain ⟨-, htext⟩ := Bool.and_eq_true_iff.mp htext
      cases List.mem_singleton.mp h
      simp only [Discord.Client.isForeign, htext, Bool.not_true, Bool.false_or]
      rfl
    · cases h
  | reaction r =>
    simp only [Discord.Client.actions] at h
    split at h
    · rw [Option.mem_toList, Option.map_eq_some_iff] at h
      obtain ⟨item', hitem, hsame⟩ := h
      cases hsame
      unfold Discord.Client.incomingReaction? at hitem
      split at hitem
      · cases hitem
      · rename_i channel hfind
        split at hitem
        · cases hitem
        · rename_i htext
          cases hitem
          rw [Bool.not_eq_true, Bool.not_eq_false'] at htext
          simp only [Discord.Client.isForeign, hfind, htext, Bool.not_true, Bool.false_or]
          rfl
    · cases h
  | clear user channel =>
    simp only [Discord.Client.actions] at h
    split at h <;> simp at h

/-- Only the operator resets a channel. -/
theorem clear_of_reset {client : Discord.Client} {event : Discord.Event} {channel : String}
    (h : .reset channel ∈ client.actions event) :
    ∃ user of, event = .clear user of ∧ toString user = client.operator := by
  cases event with
  | ready user => simp [Discord.Client.actions] at h
  | message channel' m =>
    simp only [Discord.Client.actions] at h
    split at h
    · cases List.mem_singleton.mp h
    · cases h
  | reaction r =>
    simp only [Discord.Client.actions] at h
    split at h
    · simp at h
    · cases h
  | clear user of =>
    simp only [Discord.Client.actions] at h
    split at h
    · cases List.mem_singleton.mp h
    · rename_i hoperator
      exact ⟨user, of, rfl, Decidable.not_not.mp hoperator⟩

/-- What is done about a foreign event reaches the engine only to be turned away. -/
theorem perform_foreign {event : Discord.Event} (hwired : g.Wired)
    (h : g.client.isForeign g.situation.engine.config event = true) {action : Discord.Action}
    (haction : action ∈ g.client.actions event) (answer : Outside.Answer) {s : Situation}
    (hs : s.engine.config = g.situation.engine.config) :
    (perform answer s action).cleared = s.cleared := by
  cases action with
  | receive item =>
    have hpass := admitted_iff haction
    rw [h, admit?_isSome, ← hs, ← admit?_isSome] at hpass
    have hnone : s.engine.admit? item = none := Option.not_isSome_iff_eq_none.mp (by simp [hpass])
    exact Situation.cleared_of_not_admitted hnone
  | reset channel =>
    obtain ⟨user, of, rfl, hoperator⟩ := clear_of_reset haction
    rw [hwired] at hoperator
    exact absurd hoperator (bne_iff_ne.mp h)
  | respond text hidden | log line => rfl

/-- What is done about an event that is not foreign turns nobody away. -/
theorem perform_cleared {event : Discord.Event}
    (h : g.client.isForeign g.situation.engine.config event = false) {action : Discord.Action}
    (haction : action ∈ g.client.actions event) (answer : Outside.Answer) {s : Situation}
    (hs : s.engine.config = g.situation.engine.config) :
    perform answer s.cleared action = (perform answer s action).cleared := by
  cases action with
  | receive item =>
    have hpass := admitted_iff haction
    rw [h, admit?_isSome, ← hs, ← admit?_isSome] at hpass
    have hsome : ∀ item', ChatRelay.Move.receive item = .receive item' →
        (s.engine.admit? item').isSome = true := by
      rintro item' ⟨⟩
      exact hpass
    exact Situation.after_cleared hsome
  | reset channel =>
    have hnone : ∀ item, ChatRelay.Move.reset channel answer = .receive item →
        (s.engine.admit? item).isSome = true := nofun
    exact Situation.after_cleared hnone
  | respond text hidden | log line => rfl

/-- A foreign event makes no difference. -/
theorem after_foreign (hwired : g.Wired) (h : g.isForeign m = true) :
    (g.after m).cleared = g.cleared := by
  cases m with
  | happens event answer =>
    have hall : ∀ (actions : List Discord.Action) (s : Situation),
        (∀ action ∈ actions, action ∈ g.client.actions event) →
        s.engine.config = g.situation.engine.config →
        (actions.foldl (perform answer) s).cleared = s.cleared := by
      intro actions
      induction actions with
      | nil => exact fun s _ _ => rfl
      | cons action rest ih =>
        intro s hmem hs
        obtain ⟨haction, hrest⟩ := List.forall_mem_cons.mp hmem
        rw [List.foldl_cons, ih _ hrest ((perform_config answer s action).trans hs)]
        exact perform_foreign hwired h haction answer hs
    exact congrArg (Gateway.mk g.client) (hall _ g.situation (fun _ hmem => hmem) rfl)
  | learns ownUser known | work i | reply i answer => cases h

/-- Whether somebody was turned away before makes no difference to what is not foreign. -/
theorem after_cleared (h : g.isForeign m = false) : g.cleared.after m = (g.after m).cleared := by
  cases m with
  | happens event answer =>
    have hall : ∀ (actions : List Discord.Action) (s : Situation),
        (∀ action ∈ actions, action ∈ g.client.actions event) →
        s.engine.config = g.situation.engine.config →
        actions.foldl (perform answer) s.cleared = (actions.foldl (perform answer) s).cleared := by
      intro actions
      induction actions with
      | nil => exact fun s _ _ => rfl
      | cons action rest ih =>
        intro s hmem hs
        obtain ⟨haction, hrest⟩ := List.forall_mem_cons.mp hmem
        rw [List.foldl_cons, List.foldl_cons, perform_cleared h haction answer hs,
          ih _ hrest ((perform_config answer s action).trans hs)]
    exact congrArg (Gateway.mk g.client) (hall _ g.situation (fun _ hmem => hmem) rfl)
  | learns ownUser known => rfl
  | work i => exact congrArg (Gateway.mk g.client) (Situation.after_cleared nofun)
  | reply i answer => exact congrArg (Gateway.mk g.client) (Situation.after_cleared nofun)

/-! ## Runs -/

/-- From wherever it starts, a run goes the same way without the foreign events. -/
theorem cleared_run (hwired : g.Wired) (ms : List Move) :
    g.cleared.run (g.purge ms) = (g.run ms).cleared := by
  induction ms generalizing g with
  | nil => rfl
  | cons m ms ih =>
    rw [purge]
    cases hforeign : g.isForeign m with
    | true =>
      rw [if_pos rfl, ← after_foreign hwired hforeign]
      exact ih (hwired.after m)
    | false =>
      rw [if_neg Bool.false_ne_true]
      change (g.cleared.after m).run _ = _
      rw [after_cleared hforeign]
      exact ih (hwired.after m)

/-- **Without the foreign events a run goes the same way**, but that nobody is turned away. -/
theorem run_purge (config : Config) (systemPrompt : Option String) (sessions : SessionTable)
    (ms : List Move) :
    (start config systemPrompt sessions).run ((start config systemPrompt sessions).purge ms) =
      ((start config systemPrompt sessions).run ms).cleared := by
  have hwired : (start config systemPrompt sessions).Wired := rfl
  exact cleared_run hwired ms

/-- What happens on Discord leads to moves of the engine. -/
theorem run_situation (g : Gateway) (ms : List Move) :
    ∃ ns, (g.run ms).situation = g.situation.run ns := by
  have hfold : ∀ (answer : Outside.Answer) (actions : List Discord.Action) (s : Situation),
      ∃ ns, actions.foldl (perform answer) s = s.run ns := by
    intro answer actions
    induction actions with
    | nil => exact fun s => ⟨[], rfl⟩
    | cons action rest ih =>
      intro s
      obtain ⟨ns, hns⟩ := ih (perform answer s action)
      cases action with
      | receive item => exact ⟨.receive item :: ns, hns⟩
      | reset channel => exact ⟨.reset channel answer :: ns, hns⟩
      | respond text hidden | log line => exact ⟨ns, hns⟩
  induction ms generalizing g with
  | nil => exact ⟨[], rfl⟩
  | cons m ms ih =>
    obtain ⟨ns, hns⟩ := ih (g.after m)
    cases m with
    | happens event answer =>
      obtain ⟨first, hfirst⟩ := hfold answer (g.client.actions event) g.situation
      refine ⟨first ++ ns, hns.trans ?_⟩
      rw [Situation.run_append, ← hfirst]
      rfl
    | learns ownUser known => exact ⟨ns, hns⟩
    | work i => exact ⟨.work i :: ns, hns⟩
    | reply i answer => exact ⟨.reply i answer :: ns, hns⟩

/-! ## What the engine receives -/

section Received

variable {item : Incoming} {notes : List String}

/-- What is received with a move of the engine was received before, or is what the move takes
in. -/
theorem received_after {s : Situation} {m : ChatRelay.Move}
    (h : .received item true notes ∈ (s.after m).record) :
    .received item true notes ∈ s.record ∨
      m = .receive item ∧ (s.engine.admit? item).isSome = true := by
  obtain ⟨os, hos⟩ := Situation.after_record s m
  have hrecord : (s.after m).record = s.record ++ os := congrArg Situation.record (hos s.record)
  rw [hrecord, List.mem_append] at h
  exact h.imp_right (Situation.received_of_after hrecord)

/-- What the engine receives when the connection does something was received before, or handed over
and admitted. -/
theorem received_foldl {answer : Outside.Answer} {actions : List Discord.Action} {s : Situation}
    (h : .received item true notes ∈ (actions.foldl (perform answer) s).record) :
    .received item true notes ∈ s.record ∨
      .receive item ∈ actions ∧ (s.engine.admit? item).isSome = true := by
  induction actions generalizing s with
  | nil => exact .inl h
  | cons action rest ih =>
    rcases ih h with hfirst | ⟨hrest, hpass⟩
    · cases action with
      | receive item' =>
        rcases received_after hfirst with hbefore | ⟨hitem, hpass⟩
        · exact .inl hbefore
        · cases hitem
          exact .inr ⟨List.mem_cons_self, hpass⟩
      | reset channel =>
        rcases received_after hfirst with hbefore | ⟨hitem, -⟩
        · exact .inl hbefore
        · cases hitem
      | respond text hidden | log line => exact .inl hfirst
    · rw [admit?_isSome, perform_config, ← admit?_isSome] at hpass
      exact .inr ⟨List.mem_cons_of_mem _ hrest, hpass⟩

/-- What the engine has received and admitted is something that has happened on Discord, and not
foreign. -/
theorem received_run {ms : List Move}
    (h : .received item true notes ∈ (g.run ms).situation.record) :
    .received item true notes ∈ g.situation.record ∨
      ∃ client event, (client, event) ∈ g.trail ms ∧
        client.isForeign g.situation.engine.config event = false ∧
        .receive item ∈ client.actions event := by
  induction ms generalizing g with
  | nil => exact .inl h
  | cons m ms ih =>
    -- What comes from the later moves comes from all of them.
    have hlater : ∀ {client event}, (client, event) ∈ (g.after m).trail ms →
        (client, event) ∈ g.trail (m :: ms) := by
      intro client event hmem
      cases m with
      | happens event' answer => exact List.mem_cons_of_mem _ hmem
      | learns _ _ | work _ | reply _ _ => exact hmem
    rcases ih h with hbefore | ⟨client, event, htrail, hforeign, hreceive⟩
    · cases m with
      | happens event answer =>
        rcases received_foldl hbefore with hbefore | ⟨hreceive, hpass⟩
        · exact .inl hbefore
        · refine .inr ⟨g.client, event, List.mem_cons_self, ?_, hreceive⟩
          rw [admitted_iff hreceive] at hpass
          simpa using hpass
      | learns ownUser known => exact .inl hbefore
      | work i => exact .inl ((received_after hbefore).resolve_right fun ⟨hm, _⟩ => nomatch hm)
      | reply i answer =>
        exact .inl ((received_after hbefore).resolve_right fun ⟨hm, _⟩ => nomatch hm)
    · rw [after_config] at hforeign
      exact .inr ⟨client, event, hlater htrail, hforeign, hreceive⟩

end Received

/-- Nothing is logged with what is cleared away. -/
theorem logged_filter (os : List Occurrence) :
    (os.filter (!·.isTurnedAway)).flatMap Occurrence.logged = os.flatMap Occurrence.logged := by
  induction os with
  | nil => rfl
  | cons o rest ih =>
    match o with
    | .received _ false [] => exact ih
    | .received _ true _ | .received _ false (_ :: _) | .reset _ _ | .worked _ _ _ =>
      exact congrArg (_ ++ ·) ih

/-- **Only the operator is heard.** Whatever happens on Discord and in the engine, in whatever
order, all goes the same way when the foreign events are taken out: the engine is the same, with its
queues, its sessions and its workers, every worker waits for the same, and all that is on record is
the same but for those who were turned away, and nothing was logged for them. So every turn of the
agent belongs to a unit of work that comes from an event which was not foreign, and which the
operator has sent in a channel with this profile. -/
theorem operator_only (config : Config) (systemPrompt : Option String) (sessions : SessionTable)
    (ms : List Move) :
    let g := start config systemPrompt sessions
    let whole := g.run ms
    let purged := g.run (g.purge ms)
    purged.client = whole.client ∧ purged.situation.engine = whole.situation.engine ∧
      purged.situation.waiting = whole.situation.waiting ∧
      purged.situation.record = whole.situation.record.filter (!·.isTurnedAway) ∧
      purged.situation.record.flatMap Occurrence.logged =
        whole.situation.record.flatMap Occurrence.logged ∧
      ∀ i c before after turn, whole.situation.deedsOf i c =
          before ++ .asked (.agent (.start turn)) :: after →
        ∃ work, (Doing.of before).work = some work ∧ work.IsAdmitted config c ∧
          ∃ client event, (client, event) ∈ g.trail ms ∧ client.isForeign config event = false ∧
            .receive work.item ∈ client.actions event := by
  intro g whole purged
  have hpurged : purged = whole.cleared := run_purge config systemPrompt sessions ms
  rw [hpurged]
  refine ⟨rfl, rfl, rfl, rfl, logged_filter _, fun i c before after turn h => ?_⟩
  obtain ⟨ns, hns⟩ := run_situation g ms
  have hsituation : whole.situation = (Situation.start config systemPrompt sessions).run ns := hns
  rw [hsituation] at h
  -- The turn belongs to the unit of work that was taken last, which was queued before.
  obtain ⟨work, hwork⟩ := Situation.at_work h
  have htook : .took work ∈ before := Doing.took_of_work (.inl hwork)
  obtain ⟨first, rest, hsplit⟩ := List.append_of_mem htook
  rw [hsplit, List.append_assoc] at h
  obtain ⟨os, d, d', hnext, -, hadmits, -, hos⟩ := Situation.next_of_deed h
  have hqueued : work ∈ d.queue.items := by
    cases hnext with
    | took => exact List.mem_cons_self
  obtain ⟨hadmitted, notes, hreceived⟩ := hadmits work (.inl hqueued)
  have hrecord : .received work.item true notes ∈ whole.situation.record := by
    rw [hsituation]
    exact List.mem_of_mem_filter (hos.subset hreceived)
  rcases received_run hrecord with hstart | htrail
  · cases hstart
  · exact ⟨work, hwork, hadmitted, htrail⟩

/-- A stranger writes something, then the operator does, and then a stranger calls the command. -/
def strangerMoves : List Move :=
  let channel : Discord.Channel := { id := 100, name := some "general" }
  let written (author : Int) : Discord.Message :=
    { id := 1, author := { id := author, name := "" }, content := "hi"
      createdAt := ⟨2024, 1, 1, 0, 0, 0, 0, none⟩ }
  let answer : Outside.Answer := fun _ => .error (.service "" "")
  [.happens (.message channel (written 7)) answer, .happens (.message channel (written 42)) answer,
    .work 1, .happens (.clear 7 (some 100)) answer, .work 1, .work 1, .work 1, .work 1]

/-- The settings of a relay with one channel. -/
def oneChannel : Config :=
  { token := "", operator := "42", model := "", channels := [{ name := "general" }] }

/-- A run among strangers, with them or without. -/
def strangerRun (withThem : Bool) : Gateway :=
  let g := start oneChannel none .empty
  g.run (if withThem then strangerMoves else g.purge strangerMoves)

/-- In that run the agent has a turn, and it belongs to what the operator wrote. -/
theorem operator_only_in_strangerRun :
    (strangerRun false).situation.engine = (strangerRun true).situation.engine ∧
      ∃ before turn, (strangerRun true).situation.deedsOf 1 "100" =
          before ++ [.asked (.agent (.start turn))] ∧
        ∃ work, (Doing.of before).work = some work ∧ work.IsAdmitted oneChannel "100" := by
  obtain ⟨before, turn, hbefore⟩ : ∃ before turn,
      (strangerRun true).situation.deedsOf 1 "100" =
        before ++ [.asked (.agent (.start turn))] := ⟨[.took _, .said _], _, rfl⟩
  obtain ⟨-, hengine, -, -, -, hturns⟩ := operator_only oneChannel none .empty strangerMoves
  obtain ⟨work, hwork, hadmitted, -⟩ := hturns 1 "100" before [] turn hbefore
  exact ⟨hengine, before, turn, hbefore, work, hwork, hadmitted⟩

end Gateway

end ChatRelay
