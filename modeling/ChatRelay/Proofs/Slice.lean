import ChatRelay.Proofs.Pages

/-!
# The slice of a history

A chat platform that keeps its contract hands out, newest first, messages that are older than the
one it is told: at most as many as it is asked for, but at least one if there are any. How many
they are may change from page to page.

As the messages of a channel have ids of their own, the last message of a page says how many were
seen before, and the next page goes on with the one behind it (`older_of_prefix`). So the pages of a
course put together are a slice of the channel, wherever the page boundaries are. The main statement
is `History.answer_eq_slice`.
-/

namespace ChatRelay.History

open Dialogue (Event)

/-- The messages of a channel that are older than a message, or all of them. -/
def older (content : List Message) : Option String → List Message
  | none => content
  | some id => (content.dropWhile fun m => m.id ≠ id).tail

/-- What a page of a channel with some content is by the contract of the chat platform. -/
structure Page.Keeps (content : List Message) (p : Page) : Prop where
  replied : p.reply = .ok p.messages
  messages_prefix : p.messages <+: older content p.before
  length_le : p.messages.length ≤ p.limit
  ne_nil : older content p.before ≠ [] → p.messages ≠ []

/-- A chat platform that keeps its contract as to the history of one channel. -/
def Serves {σ : Type} (port : σ → (q : Chat.Request) → Chat.service.Reply q × σ)
    (channel : String) (content : List Message) : Prop :=
  ∀ s limit before, 0 < limit →
    Page.Keeps content ⟨channel, limit, before, (port s (.history channel limit before)).1⟩

/-! ## Where a page starts -/

section Older

variable {content ms : List Message} {before : Option String} {n : ℕ}

/-- Behind a message come the messages after it, as no message before it has its id. -/
theorem older_of_append {newer rest : List Message} {m : Message}
    (hids : ((newer ++ m :: rest).map Message.id).Nodup) :
    older (newer ++ m :: rest) (some m.id) = rest := by
  have hother : ∀ x ∈ newer, decide (x.id ≠ m.id) = true := by
    intro x hx
    rw [List.map_append, List.map_cons] at hids
    have hne := (List.nodup_append.mp hids).2.2 x.id (List.mem_map_of_mem hx)
    exact decide_eq_true (hne m.id List.mem_cons_self)
  have hstop : (m :: rest).dropWhile (fun x => decide (x.id ≠ m.id)) = m :: rest :=
    List.dropWhile_cons_of_neg (by simp)
  rw [older, List.dropWhile_append_of_pos hother, hstop, List.tail_cons]

/-- If a page starts behind `n` messages, the next one starts behind those and its own. -/
theorem older_of_prefix (hids : (content.map Message.id).Nodup)
    (hbefore : older content before = content.drop n) (hms : ms <+: content.drop n) :
    older content ((ms.getLast?.map Message.id).or before) = content.drop (n + ms.length) := by
  obtain ⟨rest, hrest⟩ := hms
  cases hlast : ms.getLast? with
  | none =>
    rw [List.getLast?_eq_none_iff] at hlast
    subst hlast
    exact hbefore
  | some last =>
    obtain ⟨init, rfl⟩ := List.getLast?_eq_some_iff.mp hlast
    have hcontent : content = (content.take n ++ init) ++ last :: rest := by
      rw [List.append_assoc, ← List.singleton_append, ← List.append_assoc init, hrest,
        List.take_append_drop]
    have holder : older content (some last.id) = rest := by
      rw [hcontent]
      rw [hcontent] at hids
      exact older_of_append hids
    rw [Option.map_some, Option.some_or, holder, ← List.drop_drop, ← hrest, List.drop_left]

end Older

/-! ## What pages hand out -/

section Pages

variable {content : List Message} {channel : String} {size left n : ℕ} {before : Option String}
  {ps : List Page} {ending : Except Failure Unit}

/-- A course that starts behind `n` messages hands out the next ones, as many as are wanted or as
there are, and does not fail. -/
theorem Paged.seen_eq (h : Paged channel size left before ps ending)
    (hids : (content.map Message.id).Nodup) (hkeeps : ∀ p ∈ ps, p.Keeps content)
    (hbefore : older content before = content.drop n) :
    seen ps = (content.drop n).take left ∧ ending = .ok () := by
  induction h generalizing n with
  | enough => exact ⟨rfl, rfl⟩
  | @exhausted left before wanted =>
    have hpage := hkeeps _ List.mem_cons_self
    have hnone : content.drop n = [] := by
      rw [← hbefore]
      exact Classical.byContradiction fun hsome => hpage.ne_nil hsome rfl
    rw [hnone, List.take_nil]
    exact ⟨rfl, rfl⟩
  | failed wanted e =>
    have hpage := hkeeps _ List.mem_cons_self
    cases hpage.replied
  | @more left before ms last ps ending wanted hlast rest ih =>
    obtain ⟨hpage, hrest⟩ := List.forall_mem_cons.mp hkeeps
    have hms : ms <+: content.drop n := hbefore ▸ hpage.messages_prefix
    have hfits : ms.length ≤ min left size := hpage.length_le
    -- The next page starts behind the last message of this one.
    have hnext := older_of_prefix hids hbefore hms
    rw [hlast, Option.map_some, Option.some_or] at hnext
    obtain ⟨hseen, hending⟩ := ih hrest hnext
    obtain ⟨later, hlater⟩ := hms
    have hdrop : content.drop (n + ms.length) = later := by
      rw [← List.drop_drop, ← hlater, List.drop_left]
    refine ⟨?_, hending⟩
    calc seen (⟨channel, min left size, before, .ok ms⟩ :: ps)
      _ = ms ++ later.take (left - ms.length) := by
        rw [seen_cons, hseen, hdrop]
        rfl
      _ = (ms ++ later).take left := by
        rw [List.take_append, List.take_of_length_le (by omega : ms.length ≤ left)]
      _ = (content.drop n).take left := by rw [hlater]

/-- After the pages that are skipped, those that are collected hand out the slice. -/
theorem Course.seen_eq {offset count : ℕ} {skipped collected : List Page}
    (h : Course channel offset count skipped collected ending)
    (hids : (content.map Message.id).Nodup)
    (hkeeps : ∀ p ∈ skipped ++ collected, p.Keeps content) :
    seen collected = (content.drop offset).take count ∧ ending = .ok () := by
  have hall : older content none = content.drop 0 := rfl
  have hskipped : ∀ p ∈ skipped, p.Keeps content := fun p hp =>
    hkeeps p (List.mem_append_left collected hp)
  cases h with
  | stopped skips => cases (skips.seen_eq hids hskipped hall).2
  | through skips collects =>
    have hseen : seen skipped = content.take offset := (skips.seen_eq hids hskipped hall).1
    have hprefix : seen skipped <+: content.drop 0 := hseen ▸ List.take_prefix offset content
    have hlast : older content (lastSeen skipped) = content.drop (content.take offset).length := by
      have hbehind := older_of_prefix hids hall hprefix
      rw [Option.or_none, Nat.zero_add] at hbehind
      rw [← hseen]
      exact hbehind
    have hoffset : content.drop (content.take offset).length = content.drop offset := by
      rw [List.length_take]
      rcases Nat.le_total offset content.length with hle | hle
      · rw [Nat.min_eq_left hle]
      · rw [Nat.min_eq_right hle, List.drop_length, List.drop_of_length_le hle]
    exact collects.seen_eq hids (fun p hp => hkeeps p (List.mem_append_right skipped hp))
      (hlast.trans hoffset)

end Pages

/-! ## The answer -/

section Answer

variable {σ : Type} {port : σ → (q : Chat.Request) → Chat.service.Reply q × σ}
  {channel : Chat.Channel} {content : List Message}

/-- The pages of a run keep the contract, as each is asked for with a limit of at least one. -/
theorem Serves.keeps (hserves : Serves port channel.id content) {s : σ} {α : Type}
    {d : Outbox.Act α} {p : Page} (hp : p ∈ pages (Dialogue.run port s d).2.2)
    (hlimit : 0 < p.limit) (hchannel : p.channel = channel.id) : p.Keeps content := by
  obtain ⟨o, ho, hpage⟩ := List.mem_filterMap.mp hp
  rw [Page.of?_eq_some_iff] at hpage
  subst hpage
  obtain ⟨s', hreply⟩ := Dialogue.reply_of_mem_run ho
  have hcontract := hserves s' p.limit p.before hlimit
  rw [← hchannel] at hcontract
  rw [← hreply] at hcontract
  exact hcontract

/-- A channel that is looked up is the one whose history is wanted. -/
theorem target_of_resolves {s : σ} {place : Place} {request : HistoryRequest} {ref : String}
    (other : request.channel = some ref) (isNamed : ref ≠ "")
    (hresolves : (port s (.resolve ref)).1 = .ok (some channel)) :
    Target place request (Dialogue.run port s (answer place request)).2.2 channel := by
  have hrun : ∀ rest, (Dialogue.run port s (.ask (.resolve ref) rest : Outbox.Act String)).2.2 =
      .asked (.resolve ref) (port s (.resolve ref)).1 ::
        (Dialogue.run port (port s (.resolve ref)).2 (rest (port s (.resolve ref)).1)).2.2 :=
    fun _ => rfl
  rw [answer_of_named other isNamed, hrun, hresolves]
  exact .named other isNamed channel

/-- **A history command is answered with the transcript of exactly the messages that it asks for**,
in their order: `count` messages behind the newest `offset` ones, however long the pages are that a
chat platform hands out which keeps its contract. -/
theorem answer_eq_slice (s : σ) (place : Place) (request : HistoryRequest)
    (hids : (content.map Message.id).Nodup) (hserves : Serves port channel.id content)
    (target : Target place request (Dialogue.run port s (answer place request)).2.2 channel) :
    (Dialogue.run port s (answer place request)).1 =
      Transcript.render channel.name
        ((content.drop request.offset.toNat).take request.count.toNat) request.offset := by
  have hserved := target.served (Dialogue.plays_run port s (answer place request))
  have hkeeps : ∀ {skipped collected ending},
      pages (Dialogue.run port s (answer place request)).2.2 = skipped ++ collected →
      Course channel.id request.offset.toNat request.count.toNat skipped collected ending →
      ∀ p ∈ skipped ++ collected, p.Keeps content := by
    intro skipped collected ending hpages course p hp
    have hlimit := course.limit_pos hp
    have hchannel := course.channel_eq hp
    rw [← hpages] at hp
    exact hserves.keeps hp hlimit hchannel
  generalize hpages : pages (Dialogue.run port s (answer place request)).2.2 = ps at hserved
  generalize (Dialogue.run port s (answer place request)).1 = text at hserved
  cases hserved with
  | transcript course =>
    obtain ⟨hseen, -⟩ := course.seen_eq hids (hkeeps hpages course)
    rw [hseen]
  | failed course =>
    obtain ⟨-, hending⟩ := course.seen_eq hids (hkeeps hpages course)
    cases hending

/-! ### A chat platform with uneven pages -/

/-- Five messages, newest first. -/
def fiveMessages : List Message :=
  ["5", "4", "3", "2", "1"].map fun id => { (default : Message) with id }

/-- A chat platform whose pages have one message and two messages in turn, and whose channels are
known by name. -/
def unevenPort (content : List Message) :
    ℕ → (q : Chat.Request) → Chat.service.Reply q × ℕ
  | n, .history _ limit before =>
    (.ok ((older content before).take (min limit (n % 2 + 1)) : List Message), n + 1)
  | n, .resolve ref => (.ok (some (⟨"7", ref⟩ : Chat.Channel)), n)
  | n, _ => (.error default, n)

/-- The chat platform with uneven pages serves any content. -/
theorem serves_unevenPort (content : List Message) (channel : String) :
    Serves (unevenPort content) channel content := by
  intro n limit before hlimit
  constructor
  · rfl
  · exact List.take_prefix _ _
  · exact Nat.le_trans (List.length_take_le _ _) (Nat.min_le_left _ _)
  · intro holder hnone
    rcases List.take_eq_nil_iff.mp hnone with hzero | hnil
    · have hpos : 0 < min limit (n % 2 + 1) := Nat.lt_min.mpr ⟨hlimit, Nat.succ_pos _⟩
      omega
    · exact holder hnil

/-- A request for nine messages of another channel behind the newest two. -/
def logRequest : HistoryRequest := { count := 9, channel := some "log", offset := 2 }

/-- There are but three of them, and these are the answer. -/
theorem slice_unevenPort :
    (Dialogue.run (unevenPort fiveMessages) 0
      (answer (Place.of "100" "general" none) logRequest)).1 =
    Transcript.render "log" ((fiveMessages.drop 2).take 9) 2 := by
  have hids : (fiveMessages.map Message.id).Nodup := by decide
  have other : logRequest.channel = some "log" := rfl
  have target : Target (Place.of "100" "general" none) logRequest
      (Dialogue.run (unevenPort fiveMessages) 0
        (answer (Place.of "100" "general" none) logRequest)).2.2 ⟨"7", "log"⟩ :=
    target_of_resolves other (by decide) rfl
  have hslice := answer_eq_slice 0 _ logRequest hids (serves_unevenPort fiveMessages "7") target
  exact hslice

end Answer

end ChatRelay.History
