import ChatRelay.Platform.Reply
import ChatRelay.Proofs.Aside
import ChatRelay.Proofs.Play

/-!
# What a unit of work asks of the world

Every request of a unit of work is answered by asking something of the world. `Work.Relayed` takes
the record of a unit of work to the record of what is asked of the world for it. Only a request to
the agent asks something of the agent service, and it asks one thing: `Claude.calls` is what is left
of the record of the world when only the agent service is looked at.
-/

namespace ChatRelay

open Dialogue (Event)

/-! ## Attempts -/

namespace Attempt

variable {P : Service} {p : P.Request → Prop} {α β : Type}

/-- An attempt that asks one thing asks that. -/
theorem asks_ask {q : P.Request} (hq : p q) : (ask q).run.Asks p := ⟨hq, fun _ => trivial⟩

/-- An attempt that has its result asks nothing. -/
theorem asks_pure (a : α) : (pure a : Attempt P α).run.Asks p := trivial

/-- An outcome that is there already asks nothing. -/
theorem asks_ofExcept (r : Except Failure α) : (ofExcept r : Attempt P α).run.Asks p := trivial

/-- An attempt that goes on with another one asks what the two ask. -/
theorem asks_bind {x : Attempt P α} {f : α → Attempt P β} (hx : x.run.Asks p)
    (hf : ∀ a, (f a).run.Asks p) : (x >>= f).run.Asks p := by
  refine Dialogue.asks_bind hx fun outcome => ?_
  cases outcome with
  | error e => trivial
  | ok a => exact hf a

/-- An attempt that is rescued asks what it asks and what the rescue asks. -/
theorem asks_tryCatch {x : Attempt P α} {f : Failure → Attempt P α} (hx : x.run.Asks p)
    (hf : ∀ e, (f e).run.Asks p) : (tryCatch x f).run.Asks p := by
  refine Dialogue.asks_bind hx fun outcome => ?_
  cases outcome with
  | error e => exact hf e
  | ok a => trivial

end Attempt

/-! ## Discord -/

/-- A request to anybody but the agent service. -/
def Platform.Request.IsElsewhere : Platform.Request → Prop
  | .claude _ => False
  | _ => True

namespace Discord

open Platform.Request (IsElsewhere)

/-- What is asked of Discord is asked elsewhere. -/
theorem asks_ask (q : Request) : (ask q).run.Asks IsElsewhere := Attempt.asks_ask trivial

/-- A text channel is looked up by its number, among those that are known and then among all. -/
theorem asks_textChannel {p : Platform.Request → Prop}
    (hknown : ∀ n, p (.discord (.knownChannel n))) (hfetch : ∀ n, p (.discord (.fetchChannel n)))
    (channelId : String) : (textChannel channelId).run.Asks p := by
  refine Attempt.asks_bind (Attempt.asks_ofExcept _) fun id => ?_
  refine Attempt.asks_bind ?_ fun channel => ?_
  · refine Attempt.asks_bind (Attempt.asks_ask (hknown id)) fun known => ?_
    cases known with
    | none => exact Attempt.asks_ask (hfetch id)
    | some channel => trivial
  · split <;> trivial

/-- A text channel is looked up elsewhere. -/
theorem asks_textChannel_elsewhere (channelId : String) :
    (textChannel channelId).run.Asks IsElsewhere :=
  asks_textChannel (fun _ => trivial) (fun _ => trivial) channelId

/-- A message is looked up elsewhere. -/
theorem asks_messageOf (channelId messageId : String) :
    (messageOf channelId messageId).run.Asks IsElsewhere :=
  Attempt.asks_bind (asks_textChannel_elsewhere channelId) fun _ =>
    Attempt.asks_bind (Attempt.asks_ofExcept _) fun _ =>
      Attempt.asks_bind (asks_ask _) fun _ => trivial

/-- A channel that is named is looked up elsewhere. -/
theorem asks_resolve (ref : String) : (resolve ref).run.Asks IsElsewhere := by
  unfold resolve
  split
  · refine Attempt.asks_tryCatch ?_ fun e => ?_
    · exact Attempt.asks_bind (asks_textChannel_elsewhere ref) fun _ => trivial
    · split <;> trivial
  · exact Attempt.asks_bind (asks_ask _) fun _ => trivial

/-- Files are opened elsewhere. -/
theorem asks_openFiles (files : List String) : (openFiles files).run.Asks IsElsewhere := by
  induction files with
  | nil => trivial
  | cons path rest ih => exact Attempt.asks_bind (Attempt.asks_ask trivial) fun _ => ih

/-- A history is read elsewhere. -/
theorem asks_history (channelId : String) (limit : Nat) (before : Option String) :
    (history channelId limit before).run.Asks IsElsewhere := by
  refine Attempt.asks_bind (asks_textChannel_elsewhere channelId) fun channel => ?_
  dsimp only
  split
  · exact Attempt.asks_bind (Attempt.asks_pure none) fun _ =>
      Attempt.asks_bind (asks_ask _) fun _ => trivial
  · refine Attempt.asks_bind ?_ fun _ => Attempt.asks_bind (asks_ask _) fun _ => trivial
    exact Attempt.asks_bind (Attempt.asks_ofExcept _) fun _ => trivial

/-- The chat platform is never the agent service. -/
theorem asks_reply (q : Chat.Request) : (reply q).run.Asks IsElsewhere := by
  cases q with
  | ownUserId => exact Attempt.asks_bind (asks_ask _) fun _ => trivial
  | resolve ref => exact asks_resolve ref
  | send channelId content files =>
    refine Attempt.asks_bind (asks_textChannel_elsewhere channelId) fun channel => ?_
    refine Attempt.asks_bind (asks_openFiles files) fun _ => ?_
    exact Attempt.asks_bind (asks_ask _) fun _ => trivial
  | react channelId messageId emoji =>
    exact Attempt.asks_bind (asks_messageOf channelId messageId) fun _ => asks_ask _
  | unreact channelId messageId emoji =>
    refine Attempt.asks_bind (asks_messageOf channelId messageId) fun found => ?_
    exact Attempt.asks_bind (asks_ask _) fun _ => asks_ask _
  | fetch channelId messageId =>
    exact Attempt.asks_bind (asks_messageOf channelId messageId) fun _ => trivial
  | history channelId limit before => exact asks_history channelId limit before
  | delete channelId messageId =>
    exact Attempt.asks_bind (asks_messageOf channelId messageId) fun _ => asks_ask _

end Discord

/-! ## The agent service -/

namespace Claude

/-- The agent service as a service. -/
def service : Service := ⟨Request, Value⟩

/-- What is asked of the agent service, where it is asked. -/
def call? : Event Platform.service → Option (Event service)
  | .asked (.claude q) reply => some (.asked q reply)
  | _ => none

/-- All that is asked of the agent service. -/
def calls (ps : List (Event Platform.service)) : List (Event service) := ps.filterMap call?

/-- The event of a turn that a message is. -/
def heard (m : Message) : Agent.Event := (event? m).getD .blank

/-- The calls of two records one after the other are one after the other, too. -/
theorem calls_append (ps ps' : List (Event Platform.service)) :
    calls (ps ++ ps') = calls ps ++ calls ps' := List.filterMap_append

/-- Where nothing is asked of the agent service there are no calls. -/
theorem calls_eq_nil {α : Type} {d : Dialogue Platform.service α}
    {ps : List (Event Platform.service)} {a : α} (h : d.Plays ps a)
    (hd : d.Asks Platform.Request.IsElsewhere) : calls ps = [] := by
  refine List.filterMap_eq_nil_iff.mpr fun o ho => ?_
  match o with
  | .said line => rfl
  | .asked (.claude q) reply =>
    have hasked : Platform.Request.claude q ∈ ps.filterMap Event.request? :=
      List.mem_filterMap.mpr ⟨_, ho, rfl⟩
    exact (h.asks hd _ hasked).elim
  | .asked (.discord _) _ | .asked (.disk _) _ | .asked (.web _) _ | .asked .freshName _
  | .asked (.store _) _ => rfl

section Replies

variable {s : Settings} {ps : List (Event Platform.service)}

/-- A turn is started by a query. -/
theorem calls_of_start {turn : Agent.Turn} {reply : Outside.service.Reply (.agent (.start turn))}
    (h : (Platform.reply s (.agent (.start turn))).Plays ps reply) :
    calls ps = [.asked (.query turn.prompt (options s turn)) reply] := by
  cases h with
  | say h =>
    cases h with
    | ask reply h =>
      cases h
      rfl

/-- The next event of a turn is the next message of its query. -/
theorem calls_of_next {reply : Outside.service.Reply (.agent .next)}
    (h : (Platform.reply s (.agent .next)).Plays ps reply) :
    ∃ taken : service.Reply .next, calls ps = [.asked .next taken] ∧
      reply = Except.map (Option.map heard) taken := by
  cases h with
  | ask taken h =>
    refine ⟨taken, ?_⟩
    match taken with
    | .error e =>
      cases h
      exact ⟨rfl, rfl⟩
    | .ok none =>
      cases h
      exact ⟨rfl, rfl⟩
    | .ok (some (m : Message)) =>
      cases h
      exact ⟨rfl, rfl⟩

/-- A turn is closed when its query is. -/
theorem calls_of_close {reply : Outside.service.Reply (.agent .close)}
    (h : (Platform.reply s (.agent .close)).Plays ps reply) :
    calls ps = [.asked .close reply] := by
  cases h with
  | ask reply h =>
    cases h
    rfl

/-- What is asked of nobody but the agent asks nothing of the agent service. -/
theorem calls_of_isAside {q : Outside.Request} (hq : q.IsAside) {reply : Outside.service.Reply q}
    (h : (Platform.reply s q).Plays ps reply) : calls ps = [] := by
  refine calls_eq_nil h ?_
  cases q with
  | agent q | store change => exact hq.elim
  | chat q => exact Discord.asks_reply q
  | disk q | web url | freshName => exact ⟨trivial, fun _ => trivial⟩

end Replies

end Claude

/-! ## Records -/

namespace Work

/-- What is asked of the world for one request of a unit of work. The engine is not the agent, so
whatever it does for a request of its own asks nothing of the agent service. -/
inductive Answered (s : Claude.Settings) :
    (q : Request) → service.Reply q → List (Event Platform.service) → Prop where
  | outside {q : Outside.Request} {reply : Outside.service.Reply q}
      {ps : List (Event Platform.service)} (played : (Platform.reply s q).Plays ps reply) :
      Answered s (.outside q) reply ps
  | engine {q : Request} {reply : service.Reply q} {ps : List (Event Platform.service)}
      (own : ∀ q', q ≠ .outside q') (elsewhere : Claude.calls ps = []) : Answered s q reply ps

/-- What is asked of the world for all requests of a unit of work. -/
inductive Relayed (s : Claude.Settings) :
    List (Event service) → List (Event Platform.service) → Prop where
  | nil : Relayed s [] []
  | said {line : String} {os : List (Event service)} {ps : List (Event Platform.service)}
      (rest : Relayed s os ps) : Relayed s (.said line :: os) (.said line :: ps)
  | asked {q : Request} {reply : service.Reply q} {os : List (Event service)}
      {part ps : List (Event Platform.service)} (answered : Answered s q reply part)
      (rest : Relayed s os ps) : Relayed s (.asked q reply :: os) (part ++ ps)

/-- A request to neither the agent nor the store asks nothing of the agent service. -/
theorem Answered.calls_eq_nil {s : Claude.Settings} {q : Request} {reply : service.Reply q}
    {part : List (Event Platform.service)} (h : Answered s q reply part) (hq : q.IsApart) :
    Claude.calls part = [] := by
  cases h with
  | outside played => exact Claude.calls_of_isAside hq played
  | engine own elsewhere => exact elsewhere

/-- Only the outside answers a request to the outside. -/
theorem Answered.of_outside {s : Claude.Settings} {q : Outside.Request}
    {reply : Outside.service.Reply q} {part : List (Event Platform.service)}
    (h : Answered s (.outside q) reply part) : (Platform.reply s q).Plays part reply := by
  cases h with
  | outside played => exact played
  | engine own elsewhere => exact absurd rfl (own q)

end Work

end ChatRelay
