import ChatRelay.History
import ChatRelay.Proofs.Play
import Mathlib.Data.Nat.Notation

/-!
# Pages of the history of a channel

To answer a history command the relay asks for pages, first to skip messages and then to collect
them. `History.Paged` is one such course of pages, with the messages that are still wanted and the
message behind which the next page starts: it ends when no more messages are wanted, with an empty
page, or with a failure. `History.Course` puts the two together, and says how the answer comes
about.

Nothing is assumed of what the chat platform replies: a page may be longer than it was asked for,
or hand out messages again. Every page that does not end the work still brings it further, so there
are no more pages than messages to skip and to collect. The main statement is
`History.requests_bounded`.
-/

namespace ChatRelay

open Dialogue (Event)

namespace Dialogue

variable {P : Service} {α σ : Type}

/-- What was asked in a run was answered in it. -/
theorem reply_of_mem_run {answer : σ → (q : P.Request) → P.Reply q × σ} {s : σ} {d : Dialogue P α}
    {q : P.Request} {reply : P.Reply q} (h : .asked q reply ∈ (run answer s d).2.2) :
    ∃ s', reply = (answer s' q).1 := by
  induction d generalizing s with
  | done a => cases h
  | say line rest ih =>
    rcases List.mem_cons.mp h with heq | hrest
    · cases heq
    · exact ih hrest
  | ask q' rest ih =>
    rcases List.mem_cons.mp h with heq | hrest
    · cases heq
      exact ⟨s, rfl⟩
    · exact ih _ hrest

end Dialogue

namespace History

/-! ## Pages -/

/-- A page of the history of a channel: what it was asked for with, and the reply. -/
structure Page where
  channel : String
  limit : ℕ
  before : Option String
  reply : Except Failure (List Message)

namespace Page

/-- The request for a page, with the reply. -/
def call (p : Page) : Event Chat.service := .asked (.history p.channel p.limit p.before) p.reply

/-- The page that is asked for, where one is. -/
def of? : Event Chat.service → Option Page
  | .asked (.history channel limit before) reply => some ⟨channel, limit, before, reply⟩
  | _ => none

/-- The messages that are handed out. -/
def messages (p : Page) : List Message :=
  match p.reply with
  | .ok ms => ms
  | .error _ => []

/-- An event is a page just where it is the call for it. -/
theorem of?_eq_some_iff {o : Event Chat.service} {p : Page} : of? o = some p ↔ o = p.call := by
  constructor
  · intro h
    unfold of? at h
    split at h
    · cases h
      rfl
    · cases h
  · rintro rfl
    rfl

end Page

/-- All pages that are asked for. -/
def pages (os : List (Event Chat.service)) : List Page := os.filterMap Page.of?

/-- The messages that pages hand out, in the order in which they do. -/
def seen (ps : List Page) : List Message := ps.flatMap Page.messages

/-- The id of the last message that pages hand out: of the last message of the last page that is
not empty. -/
def lastSeen (ps : List Page) : Option String := (seen ps).getLast?.map Message.id

/-- The pages of two records one after the other are one after the other, too. -/
@[simp] theorem pages_append (os os' : List (Event Chat.service)) :
    pages (os ++ os') = pages os ++ pages os' := List.filterMap_append

/-- The pages of the calls for pages are these pages. -/
@[simp] theorem pages_calls (ps : List Page) : pages (ps.map Page.call) = ps := by
  have hcall : Page.of? ∘ Page.call = some := rfl
  rw [pages, List.filterMap_map, hcall, List.filterMap_some]

/-- No pages hand out no messages. -/
@[simp] theorem seen_nil : seen [] = [] := rfl

/-- The messages of the first page come first. -/
@[simp] theorem seen_cons (p : Page) (ps : List Page) :
    seen (p :: ps) = p.messages ++ seen ps := rfl

/-- The messages of pages one after the other are one after the other, too. -/
@[simp] theorem seen_append (ps ps' : List Page) : seen (ps ++ ps') = seen ps ++ seen ps' :=
  List.flatMap_append

/-- No pages have no last message. -/
@[simp] theorem lastSeen_nil : lastSeen [] = none := rfl

/-- The last message is that of the later pages, unless they hand out none. -/
theorem lastSeen_append (ps ps' : List Page) :
    lastSeen (ps ++ ps') = (lastSeen ps').or (lastSeen ps) := by
  rw [lastSeen, seen_append, List.getLast?_append, lastSeen, lastSeen]
  cases (seen ps').getLast? <;> rfl

/-- The last message of a page that is not empty is the last one seen, unless more are seen. -/
theorem lastSeen_cons (channel : String) (limit : ℕ) (before : Option String) {ms : List Message}
    {last : Message} (hlast : ms.getLast? = some last) (ps : List Page) :
    lastSeen (⟨channel, limit, before, .ok ms⟩ :: ps) = (lastSeen ps).or (some last.id) := by
  have hpage : lastSeen [⟨channel, limit, before, .ok ms⟩] = some last.id := by
    rw [lastSeen, seen_cons, seen_nil, List.append_nil]
    exact congrArg (Option.map Message.id) hlast
  rw [← hpage, ← lastSeen_append, List.singleton_append]

/-! ## A course of pages -/

/-- Pages of a channel, of at most `size` messages each, until `left` messages are there: each
starts behind the last message of the page before it, and the first one behind `before`. At the
end there may be a failure. -/
inductive Paged (channel : String) (size : ℕ) :
    ℕ → Option String → List Page → Except Failure Unit → Prop where
  /-- No more messages are wanted. -/
  | enough {before : Option String} : Paged channel size 0 before [] (.ok ())
  /-- There are no more messages. -/
  | exhausted {left : ℕ} {before : Option String} (wanted : 0 < left) :
      Paged channel size left before [⟨channel, min left size, before, .ok []⟩] (.ok ())
  | failed {left : ℕ} {before : Option String} (wanted : 0 < left) (e : Failure) :
      Paged channel size left before [⟨channel, min left size, before, .error e⟩] (.error e)
  | more {left : ℕ} {before : Option String} {ms : List Message} {last : Message} {ps : List Page}
      {ending : Except Failure Unit} (wanted : 0 < left) (hlast : ms.getLast? = some last)
      (rest : Paged channel size (left - ms.length) (some last.id) ps ending) :
      Paged channel size left before (⟨channel, min left size, before, .ok ms⟩ :: ps) ending

/-- The pages for a history command: those that are skipped, and then those that are collected
behind the last message that was skipped. A failure ends the work. -/
inductive Course (channel : String) (offset count : ℕ) :
    List Page → List Page → Except Failure Unit → Prop where
  | stopped {skipped : List Page} {e : Failure}
      (skips : Paged channel skipPage offset none skipped (.error e)) :
      Course channel offset count skipped [] (.error e)
  | through {skipped collected : List Page} {ending : Except Failure Unit}
      (skips : Paged channel skipPage offset none skipped (.ok ()))
      (collects : Paged channel collectPage count (lastSeen skipped) collected ending) :
      Course channel offset count skipped collected ending

/-- The channel whose history is wanted: the working channel, or the channel that was looked up
first. -/
inductive Target (place : Place) (request : HistoryRequest) :
    List (Event Chat.service) → Chat.Channel → Prop where
  | here {os : List (Event Chat.service)} (own : request.channel.getD "" = "") :
      Target place request os ⟨place.channelId, place.channelName⟩
  | named {os : List (Event Chat.service)} {ref : String} (other : request.channel = some ref)
      (isNamed : ref ≠ "") (channel : Chat.Channel) :
      Target place request (.asked (.resolve ref) (.ok (some channel)) :: os) channel

/-- What serves the history of a channel: the pages that are asked for, and the answer. -/
inductive Served (channel : Chat.Channel) (request : HistoryRequest) :
    List Page → String → Prop where
  /-- The transcript is one of the messages of the pages that are collected. -/
  | transcript {skipped collected : List Page}
      (course : Course channel.id request.offset.toNat request.count.toNat skipped collected
        (.ok ())) :
      Served channel request (skipped ++ collected)
        (Transcript.render channel.name (seen collected) request.offset)
  | failed {skipped collected : List Page} {e : Failure}
      (course : Course channel.id request.offset.toNat request.count.toNat skipped collected
        (.error e)) :
      Served channel request (skipped ++ collected) s!"--- history error: {e.message} ---"

section Plays

variable {channel : String} {before : Option String} {left : ℕ} {os : List (Event Chat.service)}

/-- Messages are skipped page by page. -/
theorem paged_of_skip {r : Except Failure (Option String)}
    (h : (skip channel before left).Plays os r) :
    ∃ ps ending, os = ps.map Page.call ∧ Paged channel skipPage left before ps ending ∧
      r = ending.map fun () => (lastSeen ps).or before := by
  induction left using Nat.strongRecOn generalizing before os with
  | ind left ih =>
    unfold skip at h
    split at h
    · rename_i hleft
      subst hleft
      cases h
      exact ⟨[], .ok (), rfl, .enough, rfl⟩
    · have hwanted : 0 < left := by omega
      cases h with
      | ask reply hrest =>
        match reply with
        | .error e =>
          cases hrest
          exact ⟨_, _, rfl, .failed hwanted e, rfl⟩
        | .ok [] =>
          cases hrest
          exact ⟨_, _, rfl, .exhausted hwanted, rfl⟩
        | .ok (m :: ms) =>
          have hlast := List.getLast?_eq_some_getLast (List.cons_ne_nil m ms)
          obtain ⟨ps, ending, rfl, hpaged, rfl⟩ := ih _ (by omega) hrest
          refine ⟨⟨channel, _, before, .ok (m :: ms)⟩ :: ps, ending, rfl,
            .more hwanted hlast hpaged, ?_⟩
          rw [lastSeen_cons _ _ _ hlast, Option.or_assoc, Option.some_or]

/-- Messages are collected page by page. -/
theorem paged_of_collect {r : Except Failure (List Message)}
    (h : (collect channel before left).Plays os r) :
    ∃ ps ending, os = ps.map Page.call ∧ Paged channel collectPage left before ps ending ∧
      r = ending.map fun () => seen ps := by
  induction left using Nat.strongRecOn generalizing before os r with
  | ind left ih =>
    unfold collect at h
    split at h
    · rename_i hleft
      subst hleft
      cases h
      exact ⟨[], .ok (), rfl, .enough, rfl⟩
    · have hwanted : 0 < left := by omega
      cases h with
      | ask reply hrest =>
        match reply with
        | .error e =>
          cases hrest
          exact ⟨_, _, rfl, .failed hwanted e, rfl⟩
        | .ok [] =>
          cases hrest
          exact ⟨_, _, rfl, .exhausted hwanted, rfl⟩
        | .ok (m :: ms) =>
          have hlast := List.getLast?_eq_some_getLast (List.cons_ne_nil m ms)
          obtain ⟨first, second, rest, rfl, hfirst, hsecond⟩ := Dialogue.plays_bind.mp hrest
          obtain ⟨ps, ending, rfl, hpaged, rfl⟩ := ih _ (by omega) hfirst
          cases hsecond
          refine ⟨⟨channel, _, before, .ok (m :: ms)⟩ :: ps, ending, ?_,
            .more hwanted hlast hpaged, ?_⟩
          · rw [List.append_nil]
            rfl
          · cases ending <;> rfl

/-- The messages that a request asks for are those of the pages that are collected. -/
theorem course_of_messages {request : HistoryRequest} {r : Except Failure (List Message)}
    (h : (messages channel request).Plays os r) :
    ∃ skipped collected ending, os = (skipped ++ collected).map Page.call ∧
      Course channel request.offset.toNat request.count.toNat skipped collected ending ∧
      r = ending.map fun () => seen collected := by
  obtain ⟨first, second, outcome, rfl, hfirst, hsecond⟩ := Dialogue.plays_bind.mp h
  obtain ⟨skipped, ending, rfl, hskips, rfl⟩ := paged_of_skip hfirst
  cases ending with
  | error e =>
    cases hsecond
    exact ⟨skipped, [], .error e, by rw [List.append_nil, List.append_nil], .stopped hskips, rfl⟩
  | ok _ =>
    obtain ⟨collected, ending, rfl, hcollects, rfl⟩ := paged_of_collect hsecond
    rw [Option.or_none] at hcollects
    exact ⟨skipped, collected, ending, List.map_append.symm, .through hskips hcollects, rfl⟩

/-- The transcript of a channel is served by pages. -/
theorem served_of_transcript {channel : Chat.Channel} {request : HistoryRequest} {text : String}
    (h : (transcript channel request).Plays os text) : Served channel request (pages os) text := by
  obtain ⟨first, second, outcome, rfl, hfirst, hsecond⟩ := Dialogue.plays_bind.mp h
  obtain ⟨skipped, collected, ending, rfl, hcourse, rfl⟩ := course_of_messages hfirst
  rw [pages_append, pages_calls]
  cases ending with
  | error e =>
    cases hsecond with
    | say hrest =>
      cases hrest
      have hserved : Served channel request (skipped ++ collected) _ := .failed hcourse
      rw [← List.append_nil (skipped ++ collected)] at hserved
      exact hserved
  | ok _ =>
    cases hsecond
    have hserved : Served channel request (skipped ++ collected) _ := .transcript hcourse
    rw [← List.append_nil (skipped ++ collected)] at hserved
    exact hserved

end Plays

/-! ## Answers -/

section Answers

variable {place : Place} {request : HistoryRequest} {os : List (Event Chat.service)} {text : String}

/-- Where no other channel is named, the history is that of the working channel. -/
theorem answer_of_own (h : request.channel.getD "" = "") :
    answer place request = transcript ⟨place.channelId, place.channelName⟩ request := by
  unfold answer
  cases hchannel : request.channel with
  | none => rfl
  | some ref =>
    rw [hchannel, Option.getD_some] at h
    exact if_pos h

/-- A channel that is named is looked up first, and there is an error where that fails or where it
has no text. -/
theorem answer_of_named {ref : String} (other : request.channel = some ref) (isNamed : ref ≠ "") :
    answer place request = .ask (.resolve ref) fun
      | .error e => failed e
      | .ok none => .done s!"--- history error: Channel <#{ref}> is not a text channel ---"
      | .ok (some (channel : Chat.Channel)) => transcript channel request := by
  unfold answer
  rw [other]
  exact if_neg isNamed

/-- Where there is a channel whose history is wanted, it is served. -/
theorem Target.served {channel : Chat.Channel} (target : Target place request os channel)
    (h : (answer place request).Plays os text) : Served channel request (pages os) text := by
  cases target with
  | here own =>
    rw [answer_of_own own] at h
    exact served_of_transcript h
  | named other isNamed channel =>
    rw [answer_of_named other isNamed] at h
    cases h with
    | ask reply hrest =>
      have hserved := served_of_transcript hrest
      exact hserved

/-- Otherwise no page is asked for, and the answer says why. -/
theorem served_of_answer (h : (answer place request).Plays os text) :
    (∃ channel, Target place request os channel ∧ Served channel request (pages os) text) ∨
      pages os = [] ∧ ∃ problem : String, text = s!"--- history error: {problem} ---" := by
  by_cases hchannel : request.channel.getD "" = ""
  · have target : Target place request os ⟨place.channelId, place.channelName⟩ := .here hchannel
    exact .inl ⟨_, target, target.served h⟩
  · obtain ⟨ref, other⟩ : ∃ ref, request.channel = some ref := by
      cases hnone : request.channel with
      | none => exact absurd (by rw [hnone]; rfl) hchannel
      | some ref => exact ⟨ref, rfl⟩
    have isNamed : ref ≠ "" := by
      rwa [other, Option.getD_some] at hchannel
    have hplays := h
    rw [answer_of_named other isNamed] at hplays
    cases hplays with
    | ask reply hrest =>
      match reply with
      | .error e =>
        cases hrest with
        | say hrest =>
          cases hrest
          exact .inr ⟨rfl, e.message, rfl⟩
      | .ok none =>
        cases hrest
        refine .inr ⟨rfl, s!"Channel <#{ref}> is not a text channel", ?_⟩
        exact String.toList_inj.mp (by simp [toString])
      | .ok (some (channel : Chat.Channel)) =>
        exact .inl ⟨channel, .named other isNamed channel,
          (Target.named other isNamed channel).served h⟩

end Answers

/-! ## Bounds -/

namespace Paged

variable {channel : String} {size left : ℕ} {before : Option String} {ps earlier later : List Page}
  {p : Page} {ending : Except Failure Unit}

/-- What the first page is asked for with. -/
theorem head (h : Paged channel size left before (p :: later) ending) :
    0 < left ∧ p.channel = channel ∧ p.limit = min left size ∧ p.before = before := by
  cases h with
  | exhausted wanted => exact ⟨wanted, rfl, rfl, rfl⟩
  | failed wanted e => exact ⟨wanted, rfl, rfl, rfl⟩
  | more wanted hlast rest => exact ⟨wanted, rfl, rfl, rfl⟩

/-- Behind any of its pages a course goes on with what is still wanted. -/
theorem rest_of_append (h : Paged channel size left before (earlier ++ later) ending)
    (hlater : later ≠ []) :
    Paged channel size (left - (seen earlier).length) ((lastSeen earlier).or before) later
      ending := by
  induction earlier generalizing left before with
  | nil => exact h
  | cons p earlier ih =>
    rw [List.cons_append] at h
    generalize hpages : earlier ++ later = rest at h
    cases h with
    | exhausted wanted | failed wanted e => exact absurd (List.append_eq_nil_iff.mp hpages).2 hlater
    | more wanted hlast rest =>
      subst hpages
      have hrest := ih rest
      rw [lastSeen_cons _ _ _ hlast, Option.or_assoc, Option.some_or, seen_cons,
        List.length_append, ← Nat.sub_sub]
      exact hrest

/-- Every page but the last one brings at least one message, so there are no more pages than
messages that are wanted. -/
theorem length_le (h : Paged channel size left before ps ending) : ps.length ≤ left := by
  induction h with
  | enough => exact Nat.le_refl 0
  | exhausted wanted | failed wanted e => exact wanted
  | @more left before ms last ps ending wanted hlast rest ih =>
    have hms : 0 < ms.length := List.length_pos_of_mem (List.mem_of_getLast? hlast)
    rw [List.length_cons]
    omega

/-- Unless a page is longer than it was asked for, no more messages come than are wanted. -/
theorem length_seen_le (h : Paged channel size left before ps ending)
    (hshort : ∀ p ∈ ps, p.messages.length ≤ p.limit) : (seen ps).length ≤ left := by
  induction h with
  | enough => exact Nat.le_refl 0
  | exhausted wanted | failed wanted e => exact Nat.zero_le _
  | @more left before ms last ps ending wanted hlast rest ih =>
    obtain ⟨hpage, hrest⟩ := List.forall_mem_cons.mp hshort
    have hfits : ms.length ≤ min left size := hpage
    have hlater := ih hrest
    have hseen : (seen (⟨channel, min left size, before, .ok ms⟩ :: ps)).length =
        ms.length + (seen ps).length := List.length_append
    omega

/-- What any of the pages is asked for with. -/
theorem request_eq (h : Paged channel size left before (earlier ++ p :: later) ending) :
    0 < left - (seen earlier).length ∧ p.channel = channel ∧
      p.limit = min (left - (seen earlier).length) size ∧
      p.before = (lastSeen earlier).or before :=
  (h.rest_of_append (List.cons_ne_nil p later)).head

/-- All pages are of the channel. -/
theorem channel_eq (h : Paged channel size left before ps ending) (hp : p ∈ ps) :
    p.channel = channel := by
  obtain ⟨earlier, later, rfl⟩ := List.append_of_mem hp
  exact h.request_eq.2.1

/-- A page is asked for with a limit that is neither above the size of a page nor above what is
still wanted. -/
theorem limit_le (h : Paged channel size left before ps ending) (hsize : 0 < size)
    (hps : ps = earlier ++ p :: later) :
    1 ≤ p.limit ∧ p.limit ≤ size ∧ p.limit ≤ left - (seen earlier).length := by
  subst hps
  obtain ⟨hwanted, -, hlimit, -⟩ := h.request_eq
  rw [hlimit]
  exact ⟨Nat.le_min.mpr ⟨hwanted, hsize⟩, Nat.min_le_right _ _, Nat.min_le_left _ _⟩

end Paged

namespace Course

variable {channel : String} {offset count : ℕ} {skipped collected : List Page}
  {ending : Except Failure Unit}

/-- The pages that are skipped are those before what is wanted. -/
theorem skips (h : Course channel offset count skipped collected ending) :
    ∃ x, Paged channel skipPage offset none skipped x := by
  cases h with
  | stopped skips => exact ⟨_, skips⟩
  | through skips collects => exact ⟨_, skips⟩

/-- The pages that are collected go on where the skipped ones end, unless there are none. -/
theorem collects (h : Course channel offset count skipped collected ending) :
    collected = [] ∨ Paged channel collectPage count (lastSeen skipped) collected ending := by
  cases h with
  | stopped skips => exact .inl rfl
  | through skips collects => exact .inr collects

/-- There are no more pages than messages that are skipped and wanted. -/
theorem length_le (h : Course channel offset count skipped collected ending) :
    (skipped ++ collected).length ≤ offset + count := by
  obtain ⟨x, hskips⟩ := h.skips
  have hskipped := hskips.length_le
  have hcollected : collected.length ≤ count := by
    rcases h.collects with rfl | hcollects
    · exact Nat.zero_le count
    · exact hcollects.length_le
  rw [List.length_append]
  exact Nat.add_le_add hskipped hcollected

/-- All pages are of the channel, the skipped ones and the collected ones. -/
theorem channel_eq (h : Course channel offset count skipped collected ending) {p : Page}
    (hp : p ∈ skipped ++ collected) : p.channel = channel := by
  obtain ⟨x, hskips⟩ := h.skips
  rcases List.mem_append.mp hp with hp | hp
  · exact hskips.channel_eq hp
  · rcases h.collects with rfl | hcollects
    · cases hp
    · exact hcollects.channel_eq hp

/-- While messages are skipped, a page is limited to a hundred of them and to what is still to be
skipped. -/
theorem limit_skipped (h : Course channel offset count skipped collected ending)
    {earlier later : List Page} {p : Page} (hps : skipped = earlier ++ p :: later) :
    1 ≤ p.limit ∧ p.limit ≤ 100 ∧ p.limit ≤ offset - (seen earlier).length := by
  obtain ⟨x, hskips⟩ := h.skips
  exact hskips.limit_le (Nat.succ_pos 99) hps

/-- While messages are collected, a page is limited to thirty of them and to what is still
wanted. -/
theorem limit_collected (h : Course channel offset count skipped collected ending)
    {earlier later : List Page} {p : Page} (hps : collected = earlier ++ p :: later) :
    1 ≤ p.limit ∧ p.limit ≤ 30 ∧ p.limit ≤ count - (seen earlier).length := by
  rcases h.collects with rfl | hcollects
  · exact absurd hps (List.append_ne_nil_of_right_ne_nil _ (List.cons_ne_nil _ _)).symm
  · exact hcollects.limit_le (Nat.succ_pos 29) hps

/-- No page is asked for with a limit of zero. -/
theorem limit_pos (h : Course channel offset count skipped collected ending) {p : Page}
    (hp : p ∈ skipped ++ collected) : 0 < p.limit := by
  rcases List.mem_append.mp hp with hp | hp
  · obtain ⟨earlier, later, hps⟩ := List.append_of_mem hp
    exact (h.limit_skipped hps).1
  · obtain ⟨earlier, later, hps⟩ := List.append_of_mem hp
    exact (h.limit_collected hps).1

/-- The first page that is collected starts behind the last message that was skipped, so among all
pages every page starts behind the last message so far. -/
theorem before_eq (h : Course channel offset count skipped collected ending)
    {earlier later : List Page} {p : Page} (hps : skipped ++ collected = earlier ++ p :: later) :
    p.before = lastSeen earlier := by
  obtain ⟨x, hskips⟩ := h.skips
  -- The page is the one behind `between` among those that are collected.
  have hcollected : ∀ {between}, collected = between ++ p :: later →
      p.before = lastSeen (skipped ++ between) := by
    intro between hbetween
    rcases h.collects with rfl | hcollects
    · exact absurd hbetween (List.append_ne_nil_of_right_ne_nil _ (List.cons_ne_nil _ _)).symm
    · subst hbetween
      rw [lastSeen_append]
      exact hcollects.request_eq.2.2.2
  rcases List.append_eq_append_iff.mp hps with ⟨between, rfl, hbetween⟩ | ⟨rest, hskipped, hrest⟩
  · exact hcollected hbetween
  · cases rest with
    | nil =>
      rw [List.append_nil] at hskipped
      subst hskipped
      have hfirst := @hcollected [] hrest.symm
      rwa [List.append_nil] at hfirst
    | cons q rest =>
      obtain ⟨rfl, -⟩ := List.cons.inj hrest
      subst hskipped
      rw [hskips.request_eq.2.2.2, Option.or_none]

/-- Unless a page is longer than it was asked for, no more messages are collected than are
wanted. -/
theorem length_seen_le (h : Course channel offset count skipped collected ending)
    (hshort : ∀ p ∈ skipped ++ collected, p.messages.length ≤ p.limit) :
    (seen collected).length ≤ count := by
  rcases h.collects with rfl | hcollects
  · exact Nat.zero_le count
  · exact hcollects.length_seen_le fun p hp => hshort p (List.mem_append_right skipped hp)

end Course

/-- What is asked of the chat platform for a history command, and what comes of it. -/
structure Bounded (place : Place) (request : HistoryRequest) (os : List (Event Chat.service))
    (text : String) (channel : Chat.Channel) (skipped collected : List Page) : Prop where
  /-- First pages are skipped, then pages are collected. -/
  pages_eq : pages os = skipped ++ collected
  length_pages_le : (pages os).length ≤ request.offset.toNat + request.count.toNat
  /-- All pages are of one channel, the one whose history is wanted. -/
  channel_eq : ∀ p ∈ pages os, p.channel = channel.id ∧ Target place request os channel
  /-- While messages are skipped, a page is asked for with a limit of at most 100, and of at most
  what is still to be skipped. -/
  limit_skipped : ∀ earlier p later, skipped = earlier ++ p :: later →
    1 ≤ p.limit ∧ p.limit ≤ 100 ∧ p.limit ≤ request.offset.toNat - (seen earlier).length
  /-- While messages are collected, a page is asked for with a limit of at most 30, and of at most
  what is still to be collected. -/
  limit_collected : ∀ earlier p later, collected = earlier ++ p :: later →
    1 ≤ p.limit ∧ p.limit ≤ 30 ∧ p.limit ≤ request.count.toNat - (seen earlier).length
  /-- Every page starts behind the last message so far. -/
  before_eq : ∀ earlier p later, pages os = earlier ++ p :: later → p.before = lastSeen earlier
  /-- The answer is a transcript of the messages collected, or says that there is an error. -/
  text_eq : (Target place request os channel ∧
      text = Transcript.render channel.name (seen collected) request.offset) ∨
    ∃ problem : String, text = s!"--- history error: {problem} ---"
  /-- Unless a page is longer than it was asked for, the transcript is not too long. -/
  length_seen_le : (∀ p ∈ pages os, p.messages.length ≤ p.limit) →
    (seen collected).length ≤ request.count.toNat

section Bounded

variable {place : Place} {request : HistoryRequest} {os : List (Event Chat.service)} {text : String}
  {channel : Chat.Channel} {skipped collected : List Page} {ending : Except Failure Unit}

/-- The course of a history keeps all bounds. -/
theorem Course.bounded
    (course : Course channel.id request.offset.toNat request.count.toNat skipped collected ending)
    (target : Target place request os channel) (hpages : pages os = skipped ++ collected)
    (htext : text = Transcript.render channel.name (seen collected) request.offset ∨
      ∃ problem : String, text = s!"--- history error: {problem} ---") :
    Bounded place request os text channel skipped collected where
  pages_eq := hpages
  length_pages_le := hpages ▸ course.length_le
  channel_eq := fun _ hp => ⟨course.channel_eq (hpages ▸ hp), target⟩
  limit_skipped := fun _ _ _ => course.limit_skipped
  limit_collected := fun _ _ _ => course.limit_collected
  before_eq := fun _ _ _ hps => course.before_eq (hpages.symm.trans hps)
  text_eq := htext.imp_left fun h => ⟨target, h⟩
  length_seen_le := fun hshort => course.length_seen_le (hpages ▸ hshort)

/-- A history that is served keeps all bounds. -/
theorem Served.bounded (h : Served channel request (pages os) text)
    (target : Target place request os channel) :
    ∃ skipped collected, Bounded place request os text channel skipped collected := by
  generalize hpages : pages os = ps at h
  cases h with
  | transcript course => exact ⟨_, _, course.bounded target hpages (.inl rfl)⟩
  | failed course => exact ⟨_, _, course.bounded target hpages (.inr ⟨_, rfl⟩)⟩

/-- Where no page is asked for, nothing is to be bounded. -/
theorem bounded_of_pages_eq_nil (hpages : pages os = [])
    (htext : ∃ problem : String, text = s!"--- history error: {problem} ---") :
    Bounded place request os text channel [] [] where
  pages_eq := hpages
  length_pages_le := by
    rw [hpages]
    exact Nat.zero_le _
  channel_eq := fun _ hp => absurd (hpages ▸ hp) List.not_mem_nil
  limit_skipped := fun _ _ _ hps => absurd hps (by simp)
  limit_collected := fun _ _ _ hps => absurd hps (by simp)
  before_eq := fun _ _ _ hps => absurd (hpages.symm.trans hps) (by simp)
  text_eq := .inr htext
  length_seen_le := fun _ => Nat.zero_le _

end Bounded

/-- **Whatever the chat platform replies, and however its pages come, a history command is served
within as many requests as messages are to be skipped and collected.** -/
theorem requests_bounded {σ : Type} (port : σ → (q : Chat.Request) → Chat.service.Reply q × σ)
    (s : σ) (place : Place) (request : HistoryRequest) :
    ∃ channel skipped collected,
      Bounded place request (Dialogue.run port s (answer place request)).2.2
        (Dialogue.run port s (answer place request)).1 channel skipped collected := by
  rcases served_of_answer (Dialogue.plays_run port s (answer place request)) with
    ⟨channel, target, hserved⟩ | ⟨hpages, htext⟩
  · exact ⟨channel, hserved.bounded target⟩
  · exact ⟨default, [], [], bounded_of_pages_eq_nil hpages htext⟩

end History

end ChatRelay
