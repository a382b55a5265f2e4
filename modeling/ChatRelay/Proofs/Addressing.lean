import ChatRelay.Proofs.Posting
import ChatRelay.Proofs.World
import ChatRelay.Proofs.Writing

/-!
# Channels by their names and by their numbers

A `Discord.Register` is what a connection to Discord knows of the channels. A reference of digits
is looked up as a number, and every other reference as a name among all channels that are known; so
a channel whose name is more than digits is found by its name. What is then posted for a command to
send a message to this channel goes there, in chunks and in order.

The main statement is `Discord.resolves_by_name`.
-/

namespace ChatRelay

open Text

/-! ## Numbers -/

/-- Digits without underscores are read as they are. -/
theorem Text.Numeral.digitsWithUnderscores?_of_digits {cs : List Char} (hne : cs ≠ [])
    (hcs : ∀ c ∈ cs, isDecimal c = true) : digitsWithUnderscores? cs = some cs := by
  fun_induction digitsWithUnderscores? cs with
  | case1 => exact absurd rfl hne
  | case2 c hc => rfl
  | case3 c hc => exact absurd (hcs c List.mem_cons_self) hc
  | case4 c rest hc ih =>
    have hunderscore := hcs '_' (List.mem_cons_of_mem c List.mem_cons_self)
    exact absurd hunderscore (by decide)
  | case5 c rest hc => exact absurd (hcs c List.mem_cons_self) hc
  | case6 c rest hrest hother hc ih =>
    rw [ih (fun h => hrest h) fun c' hc' => hcs c' (List.mem_cons_of_mem c hc')]
    rfl
  | case7 c rest hrest hother hc => exact absurd (hcs c List.mem_cons_self) hc

/-- A number that is not too long is an integer literal. -/
theorem IsNumber.readInt_eq {s : String} (h : IsNumber s) {n : Nat}
    (hn : Numeral.ofDigits s.toList = .ok n) : readInt s = .ok (n : Int) := by
  obtain ⟨c, cs, hcs⟩ := List.exists_cons_of_ne_nil h.toList_ne_nil
  have hfirst : isDecimal c = true := h.digits c (hcs ▸ List.mem_cons_self)
  have hspace : s.toList.dropWhile Numeral.isSpace = s.toList := by
    have hnone : Numeral.isSpace c = false := by
      rw [Numeral.isSpace, isBlank_of_isDecimal hfirst, Bool.false_and]
    rw [hcs, List.dropWhile_cons, hnone, if_neg Bool.false_ne_true]
  have hsign : Numeral.splitSign s.toList = (false, s.toList) := by
    rw [hcs]
    unfold Numeral.splitSign
    split
    · rename_i rest heq
      cases heq
      exact absurd hfirst (by decide)
    · rename_i rest heq
      cases heq
      exact absurd hfirst (by decide)
    · rfl
  have hpart : ∀ c ∈ s.toList, Numeral.isPart c = true := by
    intro c hc
    rw [Numeral.isPart, h.digits c hc, Bool.true_or]
  have htake : s.toList.takeWhile Numeral.isPart = s.toList := List.takeWhile_eq_self_iff.mpr hpart
  have hdrop : s.toList.dropWhile Numeral.isPart = [] := List.dropWhile_eq_nil_iff.mpr hpart
  have hdigits := Numeral.digitsWithUnderscores?_of_digits h.toList_ne_nil h.digits
  simp only [readInt, hspace, hsign, htake, hdrop, hdigits, hn]
  rfl

/-! ## By way of another service -/

namespace Dialogue

variable {P Q : Service} {α : Type} {through : (q : P.Request) → Dialogue Q (P.Reply q)}

/-- The record of a dialogue by way of another service: what is said, and what is asked of that
service for each request. -/
inductive Through (through : (q : P.Request) → Dialogue Q (P.Reply q)) :
    List (Event P) → List (Event Q) → Prop where
  | nil : Through through [] []
  | said {line : String} {os : List (Event P)} {ps : List (Event Q)}
      (rest : Through through os ps) : Through through (.said line :: os) (.said line :: ps)
  | asked {q : P.Request} {reply : P.Reply q} {os : List (Event P)} {part ps : List (Event Q)}
      (played : (through q).Plays part reply) (rest : Through through os ps) :
      Through through (.asked q reply :: os) (part ++ ps)

/-- By way of another service a dialogue goes a way of its own. -/
theorem through_of_plays {d : Dialogue P α} {ps : List (Event Q)} {a : α}
    (h : (d.via through).Plays ps a) : ∃ os, d.Plays os a ∧ Through through os ps := by
  induction d generalizing ps with
  | done a =>
    cases h
    exact ⟨[], .done a, .nil⟩
  | say line rest ih =>
    cases h with
    | say h =>
      obtain ⟨os, hplays, hthrough⟩ := ih h
      exact ⟨.said line :: os, .say hplays, .said hthrough⟩
  | ask q rest ih =>
    obtain ⟨part, later, reply, rfl, hpart, hlater⟩ := plays_bind.mp h
    obtain ⟨os, hplays, hthrough⟩ := ih reply hlater
    exact ⟨.asked q reply :: os, .ask reply hplays, .asked hpart hthrough⟩

/-- One part of a record after the other. -/
theorem Through.split {os os' : List (Event P)} {ps : List (Event Q)}
    (h : Through through (os ++ os') ps) :
    ∃ first second, ps = first ++ second ∧ Through through os first ∧
      Through through os' second := by
  induction os generalizing ps with
  | nil => exact ⟨[], ps, rfl, .nil, h⟩
  | cons o os ih =>
    cases h with
    | said rest =>
      obtain ⟨first, second, rfl, hfirst, hsecond⟩ := ih rest
      exact ⟨_ :: first, second, rfl, .said hfirst, hsecond⟩
    | asked played rest =>
      obtain ⟨first, second, rfl, hfirst, hsecond⟩ := ih rest
      exact ⟨_ ++ first, second, (List.append_assoc _ first second).symm, .asked played hfirst,
        hsecond⟩

end Dialogue

/-! ## What the connection knows -/

namespace Discord

/-- A number of a channel: it is not below zero, and has no more digits than are read. -/
def IsId (n : Int) : Prop := 0 ≤ n ∧ (toString n).length ≤ Numeral.limit

/-- What a connection knows of the channels: all that it lists, and those that it finds by their
numbers, among which are all that it lists. -/
structure Register where
  channels : List Channel
  find? : Int → Option Channel
  find?_of_mem : ∀ c ∈ channels, find? c.id = some c
  id_of_find? : ∀ n c, find? n = some c → c.id = n
  isId_of_find? : ∀ n c, find? n = some c → IsId n

namespace Register

/-- What is asked of the connection is answered from the register. Any other request can have any
reply. -/
def Agrees (k : Register) : Dialogue.Event Platform.service → Prop
  | .asked (.discord .knownChannels) reply => reply = .ok k.channels
  | .asked (.discord (.knownChannel n)) reply => reply = .ok (k.find? n)
  | _ => True

/-- Something that always answers from the register. -/
structure Answers (k : Register) {σ : Type}
    (answer : σ → (q : Platform.service.Request) → Platform.service.Reply q × σ) : Prop where
  all : ∀ s, (answer s (.discord .knownChannels)).1 = .ok k.channels
  one : ∀ s n, (answer s (.discord (.knownChannel n))).1 = .ok (k.find? n)

/-- This is the first text channel with a name among all that are listed. -/
def IsFirst (k : Register) (name : String) (c : Channel) : Prop :=
  c.isText = true ∧ c.name = some name ∧ ∃ before after, k.channels = before ++ c :: after ∧
    ∀ other ∈ before, ¬(other.isText = true ∧ other.name = some name)

variable {k : Register}

/-- Whoever answers from the register leaves a record that agrees with it. -/
theorem Answers.agrees {σ : Type}
    {answer : σ → (q : Platform.service.Request) → Platform.service.Reply q × σ}
    (hk : k.Answers answer) {α : Type} (d : Dialogue Platform.service α) (s : σ) :
    ∀ o ∈ (d.run answer s).2.2, k.Agrees o := by
  induction d generalizing s with
  | done a => exact List.forall_mem_nil _
  | say line rest ih => exact List.forall_mem_cons.mpr ⟨trivial, ih s⟩
  | ask q rest ih =>
    refine List.forall_mem_cons.mpr ⟨?_, ih _ _⟩
    match q with
    | .discord .knownChannels => exact hk.all s
    | .discord (.knownChannel n) => exact hk.one s n
    | .discord .ownUser | .discord (.fetchChannel _) | .discord (.send _ _ _)
    | .discord (.fetchMessage _ _) | .discord (.history _ _ _) | .discord (.addReaction _ _ _)
    | .discord (.removeReaction _ _ _ _) | .discord (.delete _ _) | .claude _ | .disk _ | .web _
    | .freshName | .store _ => trivial

/-- The text channel that is found by a name is the first one with it. -/
theorem isFirst_of_named? {name : String} {c : Channel}
    (h : named? name k.channels = some c) : k.IsFirst name c := by
  obtain ⟨hc, before, after, hchannels, hbefore⟩ := List.find?_eq_some_iff_append.mp h
  obtain ⟨htext, hname⟩ := Bool.and_eq_true_iff.mp hc
  refine ⟨htext, beq_iff_eq.mp hname, before, after, hchannels, ?_⟩
  rintro other hother ⟨hotherText, hotherName⟩
  have hnot := hbefore other hother
  rw [hotherText, hotherName, beq_self_eq_true] at hnot
  exact absurd hnot (by decide)

/-- A name of a known text channel is found. -/
theorem exists_isFirst {c : Channel} (hc : c ∈ k.channels) (htext : c.isText = true)
    {name : String} (hname : c.name = some name) :
    ∃ first, named? name k.channels = some first ∧ k.IsFirst name first := by
  have hfound : (named? name k.channels).isSome = true := by
    refine List.find?_isSome.mpr ⟨c, hc, ?_⟩
    rw [htext, hname, beq_self_eq_true]
    rfl
  obtain ⟨first, hfirst⟩ := Option.isSome_iff_exists.mp hfound
  exact ⟨first, hfirst, isFirst_of_named? hfirst⟩

/-- The first channel with a name is one of those that are listed. -/
theorem IsFirst.mem {name : String} {c : Channel} (h : k.IsFirst name c) : c ∈ k.channels := by
  obtain ⟨-, -, before, after, hchannels, -⟩ := h
  rw [hchannels]
  exact List.mem_append_right before List.mem_cons_self

end Register

/-! ## Looking up -/

variable {k : Register} {ps : List (Dialogue.Event Platform.service)}

/-- A reference that is more than digits is looked up among the names of the text channels. -/
theorem resolve_of_name {ref : String} {r : Except Failure (Option Chat.Channel)}
    (href : isNumber ref = false) (h : (resolve ref).run.Plays ps r)
    (hk : ∀ o ∈ ps, k.Agrees o) :
    r = .ok ((named? ref k.channels).map (·.toChannel)) ∧
      ps = [.asked (.discord .knownChannels) (.ok k.channels)] := by
  rw [resolve, href, if_neg Bool.false_ne_true] at h
  cases h with
  | ask reply h =>
    have hreply : reply = .ok k.channels := hk _ List.mem_cons_self
    subst hreply
    cases h
    exact ⟨rfl, rfl⟩

/-- A reference that is read as an integer gives that number, and nothing is asked for it. -/
theorem numberOf_eq {ref : String} {n : Int} (href : readInt ref = .ok n) :
    numberOf ref = pure n := by
  rw [numberOf, href]
  rfl

/-- A channel that the register finds by its number is found with one request. -/
theorem findChannel_of_find? {n : Int} {c : Channel} (hc : k.find? n = some c)
    {r : Except Failure Channel} (h : (findChannel n).run.Plays ps r)
    (hk : ∀ o ∈ ps, k.Agrees o) :
    r = .ok c ∧ ps = [.asked (.discord (.knownChannel n)) (.ok (some c))] := by
  cases h with
  | ask reply h =>
    have hreply : reply = .ok (some c) := (hk _ List.mem_cons_self).trans (congrArg _ hc)
    subst hreply
    cases h
    exact ⟨rfl, rfl⟩

/-- The channel with a known number, if it is a text channel. -/
theorem textChannel_of_find? {ref : String} {n : Int} (href : readInt ref = .ok n) {c : Channel}
    (hc : k.find? n = some c) {r : Except Failure Channel}
    (h : (textChannel ref).run.Plays ps r) (hk : ∀ o ∈ ps, k.Agrees o) :
    r = (if c.isText then .ok c else .error (.notTextChannel ref)) ∧
      ps = [.asked (.discord (.knownChannel n)) (.ok (some c))] := by
  rw [textChannel, numberOf_eq href] at h
  have h : (findChannel n >>= fun channel => if channel.isText then return channel
      else throw (.notTextChannel ref)).run.Plays ps r := h
  obtain ⟨first, second, outcome, rfl, hfirst, hsecond⟩ := Dialogue.plays_bind.mp h
  have hagrees := List.forall_mem_append.mp hk
  obtain ⟨rfl, rfl⟩ := findChannel_of_find? hc hfirst hagrees.1
  have hsecond : (if c.isText then (pure c : Attempt Platform.service Channel)
      else throw (.notTextChannel ref)).run.Plays second r := hsecond
  cases htext : c.isText with
  | true =>
    rw [htext, if_pos rfl] at hsecond
    cases hsecond
    exact ⟨rfl, rfl⟩
  | false =>
    rw [htext, if_neg Bool.false_ne_true] at hsecond
    cases hsecond
    exact ⟨rfl, rfl⟩

/-- A reference that is a number which is known is looked up as nothing else. -/
theorem resolve_of_number {ref : String} {n : Int} (hdigits : isNumber ref = true)
    (href : readInt ref = .ok n) {c : Channel} (hc : k.find? n = some c)
    {r : Except Failure (Option Chat.Channel)} (h : (resolve ref).run.Plays ps r)
    (hk : ∀ o ∈ ps, k.Agrees o) :
    r = .ok (if c.isText then some c.toChannel else none) := by
  rw [resolve, hdigits, if_pos rfl] at h
  obtain ⟨tried, rescued, outcome, rfl, htried, hrescued⟩ := Dialogue.plays_bind.mp h
  obtain ⟨first, second, found, rfl, hfirst, hsecond⟩ := Dialogue.plays_bind.mp htried
  have hagrees := List.forall_mem_append.mp (List.forall_mem_append.mp hk).1
  obtain ⟨rfl, -⟩ := textChannel_of_find? href hc hfirst hagrees.1
  cases htext : c.isText with
  | true =>
    rw [htext, if_pos rfl] at hsecond
    cases hsecond
    cases hrescued
    rfl
  | false =>
    rw [htext, if_neg Bool.false_ne_true] at hsecond
    cases hsecond
    -- that it is no text channel is a failure of a value, and so there is none
    cases hrescued
    rfl

/-- For a reference of digits the channels are not listed. -/
theorem asks_resolve_of_digits {ref : String} (hdigits : isNumber ref = true) :
    (resolve ref).run.Asks fun q : Platform.Request => q ≠ .discord .knownChannels := by
  rw [resolve, hdigits, if_pos rfl]
  refine Attempt.asks_tryCatch ?_ fun e => ?_
  · refine Attempt.asks_bind (asks_textChannel ?_ ?_ ref) fun _ => trivial
    · rintro n ⟨⟩
    · rintro n ⟨⟩
  · split <;> trivial

/-- A message without files is sent to the channel with a known number. -/
theorem send_of_find? {ref content : String} {n : Int} (href : readInt ref = .ok n) {c : Channel}
    (hc : k.find? n = some c) (htext : c.isText = true) {r : Except Failure (Option String)}
    (h : (send ref content []).run.Plays ps r) (hk : ∀ o ∈ ps, k.Agrees o) :
    ∃ reply : Except Failure Int, r = reply.map (fun id => some (toString id)) ∧
      ps = [.asked (.discord (.knownChannel n)) (.ok (some c)),
        .asked (.discord (.send c.id (some content) [])) reply] := by
  obtain ⟨first, second, found, rfl, hfirst, hsecond⟩ := Dialogue.plays_bind.mp h
  obtain ⟨rfl, rfl⟩ := textChannel_of_find? href hc hfirst (List.forall_mem_append.mp hk).1
  rw [htext, if_pos rfl] at hsecond
  have hshown : (if content = "" ∧ ([] : List String) ≠ [] then none else some content) =
      some content := if_neg fun hboth => hboth.2 rfl
  have hsecond : (ask (.send c.id (if content = "" ∧ ([] : List String) ≠ [] then none
      else some content) []) >>= fun (id : Int) => return some (toString id)).run.Plays second r :=
    hsecond
  rw [hshown] at hsecond
  cases hsecond with
  | ask reply h =>
    refine ⟨reply, ?_⟩
    cases reply with
    | ok id =>
      cases h
      exact ⟨rfl, rfl⟩
    | error e =>
      cases h
      exact ⟨rfl, rfl⟩

/-! ## Posting -/

/-- The channel, the message and the reply, where a message is sent. -/
def post? : Dialogue.Event Platform.service →
    Option (Int × ((String × List String) × Except Failure (Option String)))
  | .asked (.discord (.send channel content files)) (reply : Except Failure Int) =>
    some (channel, (content.getD "", files), reply.map fun id => some (toString id))
  | _ => none

/-- A message is posted in one channel and in no other, in chunks and in order until one of them
fails; the first one is tried. -/
def PostedIn (channel : Int) (message : String)
    (ps : List (Dialogue.Event Platform.service)) : Prop :=
  ∃ sends, sends ≠ [] ∧ ps.filterMap post? = sends.map (channel, ·) ∧
    Delivery.Tried ((Chunk.split Chunk.maxLength message).map fun chunk => (chunk, [])) sends

/-- Work on the chat platform, which Discord is. -/
def ofChat {α : Type} (d : Dialogue Chat.service α) : Dialogue Platform.service α :=
  d.via fun q => (reply q).run

/-- A number of a channel is written with digits only. -/
theorem IsId.isNumber {n : Int} (h : IsId n) : IsNumber (toString n) := by
  obtain ⟨m, rfl⟩ := Int.eq_ofNat_of_zero_le h.1
  exact isNumber_toString m

/-- A number of a channel that is written is read again. -/
theorem IsId.readInt_eq {n : Int} (h : IsId n) : readInt (toString n) = .ok n := by
  obtain ⟨m, rfl⟩ := Int.eq_ofNat_of_zero_le h.1
  exact (isNumber_toString m).readInt_eq (Numeral.ofDigits_toString h.2)

/-- A number is a reference of digits. -/
theorem isNumber_of_digits {ref : String} (h : IsNumber ref) : isNumber ref = true := by
  have hnonempty : ref.isEmpty = false := by
    rw [String.isEmpty_eq_false_iff]
    exact h.nonempty
  have hdigits : ref.toList.all isDigitSign = true := by
    refine List.all_eq_true.mpr fun c hc => ?_
    rw [isDigitSign, h.digits c hc, Bool.true_or]
  rw [isNumber, hnonempty, hdigits]
  rfl

/-- What is sent to the channel with a number is posted there. -/
theorem posts_of_sendCalls {c : Channel} (hc : c ∈ k.channels) (htext : c.isText = true)
    {sends : List ((String × List String) × Except Failure (Option String))}
    (hfiles : ∀ s ∈ sends, s.1.2 = [])
    (h : Dialogue.Through (fun q => (reply q).run)
      (Delivery.sendCalls (toString c.id) sends) ps) (hk : ∀ o ∈ ps, k.Agrees o) :
    ps.filterMap post? = sends.map (c.id, ·) := by
  have hfound := k.find?_of_mem c hc
  induction sends generalizing ps with
  | nil =>
    cases h
    rfl
  | cons s rest ih =>
    obtain ⟨hfirst, hrest⟩ := List.forall_mem_cons.mp hfiles
    cases h with
    | asked played later =>
      obtain ⟨hplayed, hlater⟩ := List.forall_mem_append.mp hk
      obtain ⟨⟨content, files⟩, outcome⟩ := s
      obtain rfl : files = [] := hfirst
      obtain ⟨answer, rfl, rfl⟩ :=
        send_of_find? (k.isId_of_find? _ _ hfound).readInt_eq hfound htext played hplayed
      rw [List.filterMap_append, ih hrest later hlater]
      rfl

/-- A message that is sent to the channel with a number is posted there. -/
theorem postedIn_of_sendMessage {c : Channel} (hc : c ∈ k.channels) (htext : c.isText = true)
    {tag message : String} (hmessage : allBlank message = false)
    {os : List (Dialogue.Event Chat.service)}
    (hplays : (Outbox.sendMessage tag (toString c.id) message).Plays os ())
    (h : Dialogue.Through (fun q => (reply q).run) os ps) (hk : ∀ o ∈ ps, k.Agrees o) :
    PostedIn c.id message ps := by
  rw [Outbox.sendMessage, hmessage, if_neg Bool.false_ne_true] at hplays
  obtain ⟨first, second, outcome, rfl, hfirst, hsecond⟩ := Dialogue.plays_bind.mp hplays
  obtain ⟨sends, rfl, htried, -⟩ := Outbox.tried_of_plays hfirst
  obtain ⟨sent, noted, rfl, hsent, hnoted⟩ := h.split
  have hfiles : ∀ s ∈ sends, s.1.2 = [] := by
    intro s hs
    have hmem := htried.inOrder.subset (List.mem_map_of_mem hs)
    obtain ⟨chunk, -, hchunk⟩ := List.mem_map.mp hmem
    rw [← hchunk]
  -- What is done behind the messages is a note at most.
  have hquiet : noted.filterMap post? = [] := by
    cases outcome with
    | error e =>
      cases hsecond with
      | say hdone =>
        cases hdone
        cases hnoted with
        | said hrest =>
          cases hrest
          rfl
    | ok id =>
      cases hsecond
      cases hnoted
      rfl
  have hchunks : 0 < ((Chunk.split Chunk.maxLength message).map
      fun chunk => (chunk, ([] : List String))).length := by
    rw [List.length_map]
    exact List.length_pos_iff.mpr (Chunk.split_ne_nil (by decide) message)
  have hfirstTried : 0 < sends.length := (htried.attempted 0 hchunks).mpr nofun
  refine ⟨sends, List.length_pos_iff.mp hfirstTried, ?_, htried⟩
  rw [List.filterMap_append, hquiet, List.append_nil,
    posts_of_sendCalls hc htext hfiles hsent (List.forall_mem_append.mp hk).1]

/-- A message to a channel with a name is posted in the first text channel with it. -/
theorem postedIn_of_sendTo {name : String} (hname : isNumber name = false) {first : Channel}
    (hfound : named? name k.channels = some first) {message : String}
    (hmessage : allBlank message = false)
    (h : (ofChat (Outbox.sendTo name message)).Plays ps ()) (hk : ∀ o ∈ ps, k.Agrees o) :
    PostedIn first.id message ps := by
  have hfirst := Register.isFirst_of_named? hfound
  obtain ⟨os, hplays, hthrough⟩ := Dialogue.through_of_plays h
  cases hplays with
  | ask outcome hrest =>
    cases hthrough with
    | asked hresolved hlater =>
      obtain ⟨hagrees, hlaterAgrees⟩ := List.forall_mem_append.mp hk
      obtain ⟨rfl, rfl⟩ := resolve_of_name hname hresolved hagrees
      rw [hfound] at hrest
      -- that the channels were listed is no post
      have hposted : PostedIn first.id message _ :=
        postedIn_of_sendMessage hfirst.mem hfirst.1 hmessage hrest hlater hlaterAgrees
      exact hposted

end Discord

/-! ## Names and numbers -/

/-- What a line means that is a command to send a message to a channel: the message stands on the
line, or in a heredoc that is opened there. -/
def Line.SendsTo (name content : String) : Line → Prop
  | .directive d => d = .sendTo name content
  | .opens o => ∀ message, o.directive message = .sendTo name message

/-- The channel of a command is the one whose name stands behind the hash sign. -/
theorem Line.read_sendTo_hash {name content : String} (hname : IsChannelName name)
    (hcontent : IsContent content) :
    ∃ line, Line.read ("!discord sendto #" ++ name ++ " " ++ content) = .ok line ∧
      line.SendsTo name content := by
  simp only [Line.read, Command.ofLine?_sendTo_hash hname hcontent, Line.ofCommand,
    Reference.channelText_hash hname]
  cases Reference.delimiter? content with
  | none => exact ⟨_, rfl, rfl⟩
  | some delimiter => exact ⟨_, rfl, fun message => if_neg hname.nonempty⟩

namespace Discord

section Runs

variable {k : Register} {σ : Type}
  {answer : σ → (q : Platform.service.Request) → Platform.service.Reply q × σ}

/-- The first text channel with a name is the one that the name resolves to. -/
theorem run_resolve_of_name (hk : k.Answers answer) (s : σ) {name : String}
    (hname : isNumber name = false) {first : Channel}
    (hfound : named? name k.channels = some first) :
    ((resolve name).run.run answer s).1 = .ok (some ⟨toString first.id, name⟩) := by
  have hplays := Dialogue.plays_run answer s (resolve name).run
  have hshown : first.shownName = name := by
    rw [Channel.shownName, (Register.isFirst_of_named? hfound).2.1]
    rfl
  rw [(resolve_of_name hname hplays (hk.agrees _ s)).1, hfound, Option.map_some,
    Channel.toChannel, hshown]

/-- A known channel is the one that its number resolves to, if it is a text channel. -/
theorem run_resolve_of_number (hk : k.Answers answer) (s : σ) {ref : String} (href : IsNumber ref)
    {n : Int} (hread : readInt ref = .ok n) {c : Channel} (hc : k.find? n = some c) :
    ((resolve ref).run.run answer s).1 =
      .ok (if c.isText then some ⟨toString n, c.shownName⟩ else none) := by
  have hplays := Dialogue.plays_run answer s (resolve ref).run
  rw [resolve_of_number (isNumber_of_digits href) hread hc hplays (hk.agrees _ s),
    Channel.toChannel, k.id_of_find? n c hc]

/-- **A text channel is found by its name, unless that is made of digits, and by its number.** Take
what a connection knows of the channels, whatever else Discord answers. A name that is more than
digits resolves to the first text channel with it; and a command to send a message to the name posts
the message in this channel. A reference of digits is a number instead: it resolves to the text
channel with this number, and the channels are not even listed. -/
theorem resolves_by_name (k : Register) (hk : k.Answers answer) (s : σ) :
    (∀ name, isNumber name = false → ∀ c ∈ k.channels, c.isText = true → c.name = some name →
      ∃ first, k.IsFirst name first ∧
        ((resolve name).run.run answer s).1 = .ok (some ⟨toString first.id, name⟩) ∧
        (IsChannelName name → ∀ content, IsContent content →
          ∃ line, Line.read ("!discord sendto #" ++ name ++ " " ++ content) = .ok line ∧
            line.SendsTo name content) ∧
        ∀ message, allBlank message = false →
          PostedIn first.id message ((ofChat (Outbox.sendTo name message)).run answer s).2.2) ∧
    (∀ n c, k.find? n = some c → c.isText = true →
      ((resolve (toString n)).run.run answer s).1 = .ok (some ⟨toString n, c.shownName⟩)) ∧
    ∀ ref (n : Nat), IsNumber ref → Numeral.ofDigits ref.toList = .ok n →
      (∀ c, k.find? n = some c → ((resolve ref).run.run answer s).1 =
        .ok (if c.isText then some ⟨toString n, c.shownName⟩ else none)) ∧
      Platform.Request.discord .knownChannels ∉
        ((resolve ref).run.run answer s).2.2.filterMap Dialogue.Event.request? := by
  refine ⟨fun name hname c hc htext hcname => ?_, fun n c hc htext => ?_,
    fun ref n href hread => ?_⟩
  · obtain ⟨first, hfound, hfirst⟩ := Register.exists_isFirst hc htext hcname
    refine ⟨first, hfirst, run_resolve_of_name hk s hname hfound,
      fun hchannel content => Line.read_sendTo_hash hchannel, fun message hmessage => ?_⟩
    have hplays := Dialogue.plays_run answer s (ofChat (Outbox.sendTo name message))
    exact postedIn_of_sendTo hname hfound hmessage hplays (hk.agrees _ s)
  · have hid := k.isId_of_find? n c hc
    rw [run_resolve_of_number hk s hid.isNumber hid.readInt_eq hc, htext, if_pos rfl]
  · have hint := href.readInt_eq hread
    refine ⟨fun c hc => run_resolve_of_number hk s href hint hc, fun hlisted => ?_⟩
    have hplays := Dialogue.plays_run answer s (resolve ref).run
    exact hplays.asks (asks_resolve_of_digits (isNumber_of_digits href)) _ hlisted rfl

end Runs

/-- A text channel with a year for its name, and more channels with one name. -/
def sampleChannels : List Channel :=
  [⟨100, some "2024", true⟩, ⟨150, some "general", false⟩, ⟨200, some "general", true⟩,
    ⟨300, some "general", true⟩]

/-- What is known of these channels. -/
def Register.sample : Register where
  channels := sampleChannels
  find? n := sampleChannels.find? fun c => c.id == n
  find?_of_mem := by decide
  id_of_find? n c hc := by simpa using List.find?_some hc
  isId_of_find? n c hc := by
    have hmem := List.mem_of_find?_eq_some hc
    have hid : c.id = n := by simpa using List.find?_some hc
    have hall : ∀ c ∈ sampleChannels, IsId c.id := by
      unfold IsId
      decide
    exact hid ▸ hall c hmem

/-- Answers from a register, takes every message, and refuses every other request. -/
def Register.answer (k : Register) (count : Nat) :
    (q : Platform.service.Request) → Platform.service.Reply q × Nat
  | .discord .knownChannels => (.ok k.channels, count)
  | .discord (.knownChannel n) => (.ok (k.find? n), count)
  | .discord (.send _ _ _) => (.ok (9001 + (count : Int)), count + 1)
  | _ => (.error (refusal .notFound "Unknown Channel"), count)

/-- The answers that are made from a register are those of the register. -/
theorem Register.answers_answer (k : Register) : k.Answers k.answer :=
  ⟨fun _ => rfl, fun _ _ => rfl⟩

/-- The first text channel of that name is found and written to, and the channel with the year for
its name is found by its number. -/
theorem resolves_by_name_sample :
    Register.sample.Answers Register.sample.answer ∧
      (∃ first, first.id = 200 ∧ Register.sample.IsFirst "general" first ∧
        ((resolve "general").run.run Register.sample.answer 0).1 =
          .ok (some ⟨"200", "general"⟩) ∧
        PostedIn first.id "hi"
          ((ofChat (Outbox.sendTo "general" "hi")).run Register.sample.answer 0).2.2) ∧
      ((resolve "100").run.run Register.sample.answer 0).1 = .ok (some ⟨"100", "2024"⟩) := by
  have hanswers := Register.sample.answers_answer
  obtain ⟨hnames, hnumbers, -⟩ := resolves_by_name .sample hanswers 0
  obtain ⟨first, hfirst, hresolved, -, hposts⟩ := hnames "general" (by decide)
    ⟨200, some "general", true⟩ (by decide) rfl rfl
  have hevaluated : ((resolve "general").run.run Register.sample.answer 0).1 =
      .ok (some ⟨"200", "general"⟩) := rfl
  have hid : first.id = 200 := by
    have hsame : "200" = toString first.id :=
      congrArg Chat.Channel.id (Option.some.inj (Except.ok.inj (hevaluated.symm.trans hresolved)))
    have hmem : first ∈ sampleChannels := hfirst.mem
    have hids : ∀ c ∈ sampleChannels, "200" = toString c.id → c.id = 200 := by decide
    exact hids first hmem hsame
  exact ⟨hanswers, ⟨first, hid, hfirst, hevaluated, hposts "hi" (by decide)⟩,
    hnumbers 100 ⟨100, some "2024", true⟩ rfl rfl⟩

/-- Not every text channel is found by its name. -/
theorem not_resolves_by_name :
    ¬∀ (k : Register) (answer : Nat → (q : Platform.service.Request) →
        Platform.service.Reply q × Nat), k.Answers answer →
      ∀ c ∈ k.channels, c.isText = true → ∀ name, c.name = some name →
        ∃ id, ((resolve name).run.run answer 0).1 = .ok (some ⟨id, name⟩) := by
  intro hall
  obtain ⟨id, hid⟩ := hall .sample Register.sample.answer Register.sample.answers_answer
    ⟨100, some "2024", true⟩ List.mem_cons_self rfl "2024" rfl
  have hnone : ((resolve "2024").run.run Register.sample.answer 0).1 = .ok none := rfl
  rw [hnone] at hid
  cases hid

end Discord

end ChatRelay
