import ChatRelay.Proofs.Chunk
import ChatRelay.Proofs.Dispatch

/-!
# What is posted of the output

Output that is held back is posted as messages, with emojis on the last of them.
`Pending.Makes` says which messages the output makes, and `Delivery.Delivers` what becomes of
them: they are sent in order until one fails, and where all were sent the emojis are put on the
last one, whatever becomes of each.

Directives that ask nothing are runs of directives that are held back, with a directive between
them that does something by itself. `Outbox.Dispatched` says that each run is posted where it ends,
and that nothing else is asked for it. The main statement is `Outbox.dispatched_run`.
-/

namespace ChatRelay

open Dialogue (Event)

/-! ## Messages -/

namespace Pending

/-- The output of directives that are held back. -/
def ofRun (ds : List Directive) : Pending where
  lines := ds.filterMap fun
    | .text content => some content
    | _ => none
  files := ds.filterMap fun
    | .media path => some path
    | _ => none
  emojis := ds.flatMap fun
    | .reactions emojis => emojis
    | _ => []

/-- One more directive that is held back adds its output at the end. -/
theorem hold_ofRun {d : Directive} (h : d.isHeld = true) (ds : List Directive) :
    (ofRun ds).hold d = ofRun (ds ++ [d]) := by
  cases d with
  | text _ | media _ | reactions _ | nop =>
    simp [ofRun, hold, List.filterMap_append, List.flatMap_append]
  | reaction _ _ _ | delete _ | send _ | sendTo _ _ | history _ | exec _ => cases h

/-- The messages that output makes: content and files. -/
structure Makes (p : Pending) (ms : List (String × List String)) : Prop where
  /-- A text that is not blank is sent in chunks. -/
  contents : Text.allBlank p.text = false →
    ms.map Prod.fst = Chunk.split Chunk.maxLength p.text
  /-- The files go with the first chunk. -/
  attached : Text.allBlank p.text = false →
    ms.map Prod.snd = p.files :: List.replicate (ms.length - 1) []
  /-- Without a text the files go alone. -/
  alone : Text.allBlank p.text = true → p.files ≠ [] → ms = [("", p.files)]
  nothing : Text.allBlank p.text = true → p.files = [] → ms = []

/-- The messages of output are those that it makes. -/
theorem makes_messages (p : Pending) : p.Makes p.messages := by
  cases hblank : Text.allBlank p.text with
  | true =>
    have hchunks : p.chunks = [] := by rw [chunks, hblank, if_pos rfl]
    refine ⟨?_, ?_, fun _ hfiles => ?_, fun _ hfiles => ?_⟩
    · rw [hblank]
      exact nofun
    · rw [hblank]
      exact nofun
    · have hsome : p.files.isEmpty = false := List.isEmpty_eq_false_iff.mpr hfiles
      simp only [messages, hchunks, hsome, Bool.false_eq_true, if_false]
    · simp only [messages, hchunks, hfiles, List.isEmpty_nil, if_true]
  | false =>
    have hchunks : p.chunks = Chunk.split Chunk.maxLength p.text := by
      simp only [chunks, hblank, Bool.false_eq_true, if_false]
    cases hsplit : Chunk.split Chunk.maxLength p.text with
    | nil => exact absurd hsplit (Chunk.split_ne_nil (by decide) p.text)
    | cons chunk rest =>
      have hmessages : p.messages = (chunk, p.files) :: rest.map fun chunk => (chunk, []) := by
        rw [messages, hchunks, hsplit]
      refine ⟨fun _ => ?_, fun _ => ?_, ?_, ?_⟩
      · rw [hmessages, hsplit, List.map_cons, List.map_map]
        exact congrArg (chunk :: ·) (List.map_id rest)
      · rw [hmessages, List.map_cons, List.map_map, List.length_cons, List.length_map,
          Nat.add_sub_cancel]
        exact congrArg (p.files :: ·) List.map_const'
      · rw [hblank]
        exact nofun
      · rw [hblank]
        exact nofun

/-- No message is longer than the chat platform allows. -/
theorem Makes.length_le {p : Pending} {ms : List (String × List String)} (h : p.Makes ms) :
    ∀ m ∈ ms, m.1.length ≤ 2000 := by
  intro m hm
  cases hblank : Text.allBlank p.text with
  | false =>
    have hcontent : m.1 ∈ Chunk.split Chunk.maxLength p.text :=
      h.contents hblank ▸ List.mem_map_of_mem hm
    exact Int.ofNat_le.mp (Chunk.length_le_of_mem_split (by decide) hcontent)
  | true =>
    by_cases hfiles : p.files = []
    · rw [h.nothing hblank hfiles] at hm
      cases hm
    · rw [h.alone hblank hfiles] at hm
      rw [List.mem_singleton.mp hm]
      exact Nat.zero_le _

end Pending

/-! ## Deliveries -/

/-- What was tried to deliver messages, each with the reply: content and files of the messages that
were sent, and message and emoji of the reactions. -/
structure Delivery where
  sends : List ((String × List String) × Except Failure (Option String)) := []
  reactions : List ((String × String) × Except Failure Unit) := []

namespace Delivery

/-- What is asked of the chat platform to send messages. -/
def sendCalls (channel : String)
    (sends : List ((String × List String) × Except Failure (Option String))) :
    List (Event Chat.service) :=
  sends.map fun s => .asked (.send channel s.1.1 s.1.2) s.2

/-- What is asked of the chat platform to put emojis on messages. -/
def reactCalls (channel : String) (reactions : List ((String × String) × Except Failure Unit)) :
    List (Event Chat.service) :=
  reactions.map fun r => .asked (.react channel r.1.1 r.1.2) r.2

/-- All that is asked of the chat platform. -/
def calls (channel : String) (x : Delivery) : List (Event Chat.service) :=
  sendCalls channel x.sends ++ reactCalls channel x.reactions

/-- Messages are tried in order, until one fails. -/
structure Tried (ms : List (String × List String))
    (sends : List ((String × List String) × Except Failure (Option String))) : Prop where
  inOrder : sends.map Prod.fst <+: ms
  /-- A message is tried if and only if all before it were accepted. -/
  attempted : ∀ k < ms.length,
    (k < sends.length ↔ ∀ j < k, ∃ m id, sends[j]? = some (m, .ok id))

/-- All messages were accepted, and this is what came back for the last one. -/
structure Arrived (ms : List (String × List String))
    (sends : List ((String × List String) × Except Failure (Option String)))
    (id : Option String) : Prop where
  all : sends.map Prod.fst = ms
  accepted : ∀ s ∈ sends, ∃ id, s.2 = .ok id
  last : ∃ m, sends.getLast? = some (m, .ok id)

/-- Output is delivered by sending the messages that it makes and putting its emojis on the last
one. -/
structure Delivers (x : Delivery) (p : Pending) (ms : List (String × List String)) : Prop where
  makes : p.Makes ms
  short : ∀ m ∈ ms, m.1.length ≤ 2000
  tried : Tried ms x.sends
  /-- Where the last message came back with an id, each emoji is put on it, once and in order. -/
  reacted : ∀ id, Arrived ms x.sends (some id) → x.reactions.map Prod.fst = p.emojis.map (id, ·)
  unreacted : (∀ id, ¬Arrived ms x.sends (some id)) → x.reactions = []

variable {m : String × List String} {ms : List (String × List String)}
  {sends : List ((String × List String) × Except Failure (Option String))} {id : Option String}

/-- Where there are no messages, none is tried. -/
theorem tried_nil : Tried [] [] := ⟨List.prefix_rfl, nofun⟩

/-- A message that fails is the last one that is tried. -/
theorem tried_failed (e : Failure) : Tried (m :: ms) [(m, .error e)] := by
  refine ⟨⟨ms, rfl⟩, fun k _ => ?_⟩
  cases k with
  | zero => exact ⟨fun _ => nofun, fun _ => Nat.zero_lt_one⟩
  | succ k =>
    constructor
    · intro hlt
      exact absurd (Nat.lt_of_succ_lt_succ hlt) (Nat.not_lt_zero k)
    · intro hall
      obtain ⟨m', id', hfirst⟩ := hall 0 (Nat.succ_pos k)
      cases hfirst

/-- After a message that was accepted the next ones are tried. -/
theorem Tried.sent (h : Tried ms sends) (id : Option String) :
    Tried (m :: ms) ((m, .ok id) :: sends) := by
  refine ⟨List.prefix_cons_inj m |>.mpr h.inOrder, fun k hk => ?_⟩
  cases k with
  | zero => exact ⟨fun _ => nofun, fun _ => Nat.succ_pos _⟩
  | succ k =>
    have hnext := h.attempted k (Nat.lt_of_succ_lt_succ hk)
    rw [List.length_cons, Nat.add_lt_add_iff_right, hnext, Nat.forall_lt_succ_left]
    exact ⟨fun hall => ⟨⟨m, id, rfl⟩, hall⟩, fun hall => hall.2⟩

/-- The last message comes back with what it came back with. -/
theorem arrived_last (id : Option String) : Arrived [m] [(m, .ok id)] id :=
  ⟨rfl, List.forall_mem_singleton.mpr ⟨id, rfl⟩, m, rfl⟩

/-- After a message that was accepted all have arrived where the next ones have. -/
theorem Arrived.sent (h : Arrived ms sends id) (id' : Option String) :
    Arrived (m :: ms) ((m, .ok id') :: sends) id := by
  obtain ⟨m', hlast⟩ := h.last
  refine ⟨congrArg (m :: ·) h.all, List.forall_mem_cons.mpr ⟨⟨id', rfl⟩, h.accepted⟩, m', ?_⟩
  rw [List.getLast?_cons, hlast]
  rfl

/-- One thing came back for the last message. -/
theorem Arrived.unique {id' : Option String} (h : Arrived ms sends id)
    (h' : Arrived ms sends id') : id = id' := by
  obtain ⟨m, hm⟩ := h.last
  obtain ⟨m', hm'⟩ := h'.last
  rw [hm] at hm'
  cases hm'
  rfl

/-- Where a message failed they did not all arrive. -/
theorem not_arrived {e : Failure} (h : (m, .error e) ∈ sends) : ¬Arrived ms sends id := by
  intro harrived
  obtain ⟨id', hid⟩ := harrived.accepted _ h
  cases hid

/-- The calls to send messages are all requests. -/
theorem filter_sendCalls (channel : String)
    (sends : List ((String × List String) × Except Failure (Option String))) :
    (sendCalls channel sends).filter Event.isAsked = sendCalls channel sends := by
  refine List.filter_eq_self.mpr fun o ho => ?_
  obtain ⟨s, -, rfl⟩ := List.mem_map.mp ho
  rfl

end Delivery

open Delivery

namespace Outbox

variable {os : List (Event Chat.service)}

/-- Messages are tried until one fails; then it is said why, or what came back for the last one. -/
theorem tried_of_plays {channel : String} {last : Option String}
    {ms : List (String × List String)} {r : Except Failure (Option String)}
    (h : (sendAll channel last ms).Plays os r) :
    ∃ sends, os = sendCalls channel sends ∧ Tried ms sends ∧
      (∀ e, r = .error e → ∃ m, (m, .error e) ∈ sends) ∧
      ∀ id, r = .ok id → Arrived ms sends id ∨ ms = [] ∧ id = last := by
  induction ms generalizing last os with
  | nil =>
    cases h with
    | done =>
      refine ⟨[], rfl, tried_nil, nofun, ?_⟩
      rintro id ⟨⟩
      exact .inr ⟨rfl, rfl⟩
  | cons m rest ih =>
    cases h with
    | ask reply played =>
      match reply with
      | .error e =>
        cases played with
        | done =>
          refine ⟨[(m, .error e)], rfl, tried_failed e, ?_, nofun⟩
          rintro e' ⟨⟩
          exact ⟨m, List.mem_singleton.mpr rfl⟩
      | .ok (id : Option String) =>
        obtain ⟨sends, rfl, htried, hfailed, hsent⟩ := ih played
        refine ⟨(m, .ok id) :: sends, rfl, htried.sent id, fun e he => ?_, fun id' hid => .inl ?_⟩
        · obtain ⟨m', hm'⟩ := hfailed e he
          exact ⟨m', List.mem_cons_of_mem _ hm'⟩
        · rcases hsent id' hid with harrived | ⟨rfl, rfl⟩
          · exact harrived.sent id
          -- Nothing is to be tried behind the message, so it is the last one.
          · have hnone : sends = [] :=
              List.map_eq_nil_iff.mp (List.prefix_nil.mp htried.inOrder)
            subst hnone
            exact arrived_last id'

/-- Each emoji is put on the message, whatever becomes of the others. -/
theorem reactions_of_plays {channel message : String} {emojis : List String}
    (h : (reactAll channel message emojis).Plays os ()) :
    ∃ reactions, os.filter Event.isAsked = reactCalls channel reactions ∧
      reactions.map Prod.fst = emojis.map (message, ·) := by
  induction emojis generalizing os with
  | nil =>
    cases h with
    | done => exact ⟨[], rfl, rfl⟩
  | cons emoji rest ih =>
    cases h with
    | ask reply played =>
      match reply with
      | .error e =>
        cases played with
        | say played =>
          obtain ⟨reactions, hcalls, hemojis⟩ := ih played
          exact ⟨((message, emoji), .error e) :: reactions, congrArg (_ :: ·) hcalls,
            congrArg (_ :: ·) hemojis⟩
      | .ok () =>
        obtain ⟨reactions, hcalls, hemojis⟩ := ih played
        exact ⟨((message, emoji), .ok ()) :: reactions, congrArg (_ :: ·) hcalls,
          congrArg (_ :: ·) hemojis⟩

/-- Output is posted: its messages are delivered, and nothing else is asked. -/
def Posted (place : Place) (p : Pending) (os : List (Event Chat.service)) : Prop :=
  ∃ (x : Delivery) (ms : List (String × List String)), x.Delivers p ms ∧
    os.filter Event.isAsked = x.calls place.outputChannelId

variable {place : Place} {p : Pending}

/-- Where nothing is held back, nothing is asked. -/
theorem posted_of_no_messages (hnone : p.messages = []) : Posted place p [] := by
  have hmakes := p.makes_messages
  rw [hnone] at hmakes
  refine ⟨{}, [], ⟨hmakes, hmakes.length_le, tried_nil, fun id harrived => ?_, fun _ => rfl⟩, rfl⟩
  obtain ⟨m, hlast⟩ := harrived.last
  cases hlast

/-- What is asked for output is what is asked for its messages and then for the reactions. -/
theorem calls_of_flush {line : String}
    {sends : List ((String × List String) × Except Failure (Option String))}
    {second : List (Event Chat.service)}
    {reactions : List ((String × String) × Except Failure Unit)}
    (h : second.filter Event.isAsked = reactCalls place.outputChannelId reactions) :
    (.said line :: (sendCalls place.outputChannelId sends ++ second)).filter Event.isAsked =
      Delivery.calls place.outputChannelId { sends, reactions } := by
  rw [List.filter_cons_of_neg (by exact Bool.false_ne_true), List.filter_append,
    filter_sendCalls, h]
  rfl

/-- What is held back is posted. -/
theorem posted_of_plays (h : (flush place p).Plays os ()) : Posted place p os := by
  have hmakes := p.makes_messages
  unfold flush at h
  split at h
  · rename_i hempty
    cases h with
    | done => exact posted_of_no_messages (List.isEmpty_iff.mp hempty)
  · rename_i hsome
    cases h with
    | say h =>
      obtain ⟨first, second, r, rfl, hfirst, hsecond⟩ := Dialogue.plays_bind.mp h
      obtain ⟨sends, rfl, htried, hfailed, hsent⟩ := tried_of_plays hfirst
      have harrived : ∀ id, r = .ok id → Arrived p.messages sends id := by
        intro id hid
        rcases hsent id hid with harrived | ⟨hnone, -⟩
        · exact harrived
        · exact absurd (List.isEmpty_iff.mpr hnone) hsome
      -- Only where the last message came back with an id there is anything to react to.
      match r with
      | .error e =>
        obtain ⟨m, hm⟩ := hfailed e rfl
        cases hsecond with
        | say hdone =>
          cases hdone with
          | done =>
            exact ⟨{ sends }, p.messages, ⟨hmakes, hmakes.length_le, htried,
              fun id hid => absurd hid (not_arrived hm), fun _ => rfl⟩, calls_of_flush rfl⟩
      | .ok none =>
        cases hsecond with
        | done =>
          refine ⟨{ sends }, p.messages, ⟨hmakes, hmakes.length_le, htried, fun id hid => ?_,
            fun _ => rfl⟩, calls_of_flush rfl⟩
          cases (harrived none rfl).unique hid
      | .ok (some id) =>
        obtain ⟨reactions, hreactions, hemojis⟩ := reactions_of_plays hsecond
        refine ⟨{ sends, reactions }, p.messages, ⟨hmakes, hmakes.length_le, htried,
          fun id' hid => ?_, fun hnever => absurd (harrived _ rfl) (hnever id)⟩,
          calls_of_flush hreactions⟩
        cases (harrived _ rfl).unique hid
        exact hemojis

/-! ## Runs -/

/-- What is said and asked for directives that ask nothing: every run of directives that are held
back is posted where it ends, and the directive behind it does what it does by itself. -/
inductive Dispatched (place : Place) : List Directive → List (Event Chat.service) → Prop where
  | last {run : List Directive} {os : List (Event Chat.service)}
      (held : ∀ d ∈ run, d.isHeld = true) (posted : Posted place (.ofRun run) os) :
      Dispatched place run os
  | next {run rest : List Directive} {d : Directive} {act : Act Unit}
      {os own os' : List (Event Chat.service)}
      (held : ∀ d ∈ run, d.isHeld = true) (posted : Posted place (.ofRun run) os)
      (does : d.act? place = some act) (plays : act.Plays own ())
      (later : Dispatched place rest os') :
      Dispatched place (run ++ d :: rest) (os ++ own ++ os')

/-- Behind a run that is held back, directives are carried out run by run. -/
theorem dispatched_of_plays {run ds : List Directive} {r : Option Feedback}
    (hrun : ∀ d ∈ run, d.isHeld = true) (hds : ∀ d ∈ ds, d.feedback? = none)
    (h : ((play place (.ofRun run) ds).bind (conclude place)).Plays os r) :
    Dispatched place (run ++ ds) os := by
  induction ds generalizing run os with
  | nil =>
    have hflush : ((flush place (.ofRun run)).bind fun _ => .done none).Plays os r := h
    obtain ⟨first, second, _, rfl, hfirst, hsecond⟩ := Dialogue.plays_bind.mp hflush
    cases hsecond
    rw [List.append_nil, List.append_nil]
    exact .last hrun (posted_of_plays hfirst)
  | cons d rest ih =>
    obtain ⟨hd, hrest⟩ := List.forall_mem_cons.mp hds
    rcases d.kinds place with hheld | ⟨act, hact⟩ | ⟨question, hquestion⟩
    · have hmore : ∀ d' ∈ run ++ [d], d'.isHeld = true :=
        List.forall_mem_append.mpr ⟨hrun, List.forall_mem_singleton.mpr hheld⟩
      rw [play_of_held hheld, Pending.hold_ofRun hheld] at h
      rw [List.append_cons]
      exact ih hmore hrest h
    · rw [play_of_act hact, Dialogue.bind_assoc] at h
      obtain ⟨first, second, _, rfl, hfirst, hsecond⟩ := Dialogue.plays_bind.mp h
      rw [Dialogue.bind_assoc] at hsecond
      obtain ⟨own, later, _, rfl, hown, hlater⟩ := Dialogue.plays_bind.mp hsecond
      have hnone : ∀ d ∈ ([] : List Directive), d.isHeld = true := List.forall_mem_nil _
      rw [← List.append_assoc]
      exact .next hrun (posted_of_plays hfirst) hact hown (ih hnone hrest hlater)
    · rw [hd] at hquestion
      cases hquestion

/-- **No output is lost, posted twice or posted out of order.** Whatever the chat platform answers,
directives that ask nothing are carried out run by run: each run of directives that are held back is
posted as a whole where it ends, and its emojis go to the last message. -/
theorem dispatched_run {ds : List Directive} (hds : ∀ d ∈ ds, d.feedback? = none) {σ : Type}
    (answer : σ → (q : Chat.service.Request) → Chat.service.Reply q × σ) (s : σ) :
    Dispatched place ds ((dispatch place ds).run answer s).2.2 := by
  have hplays := Dialogue.plays_run answer s (dispatch place ds)
  rw [dispatch_eq] at hplays
  have hnone : ∀ d ∈ ([] : List Directive), d.isHeld = true := List.forall_mem_nil _
  have hdispatched := dispatched_of_plays hnone hds hplays
  rw [← dispatch_eq] at hdispatched
  exact hdispatched

/-- A line with a file is refused, and so it gets no emoji; a file that stands alone is sent, and
gets one. -/
theorem dispatched_run_refused :
    let place := Place.of "7" "" (some "8")
    let ds : List Directive := [.text "a", .media "f", .reactions ["x"], .nop, .send "hi",
      .reactions ["y"], .media "g", .text " "]
    let record := ((dispatch place ds).run refusingFirst 0).2.2
    (∀ d ∈ ds, d.feedback? = none) ∧ Dispatched place ds record ∧
      record.filterMap Event.request? = [.send "8" "a" ["f"], .send "7" "hi" [],
        .send "8" "" ["g"], .react "8" "id" "y"] := by
  intro place ds
  have hds : ∀ d ∈ ds, d.feedback? = none := by decide
  exact ⟨hds, dispatched_run hds refusingFirst 0, rfl⟩

end Outbox

end ChatRelay
