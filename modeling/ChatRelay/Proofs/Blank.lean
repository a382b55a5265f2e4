import ChatRelay.Proofs.Cutting
import ChatRelay.Proofs.Errand

/-!
# Blank messages

Output and messages of the agent are sent only if they are not blank, but they are sent in chunks,
and a chunk may be blank where the text is not. `Chunk.HasBlank` says for every text whether it has
such a chunk, and `Outbox.Piece` what is known of a message that is sent without files.

The main statement is `Outbox.plain_send`: every message that is sent without files is a piece of a
text that is not blank, and a blank one is sent, on some behaviour of the chat platform, if and only
if the text has a blank chunk.
-/

namespace ChatRelay

open Dialogue (Event)

namespace Chunk

/-- Some chunk of a text is blank. -/
def HasBlank (limit : Nat) (cs : List Char) : Prop :=
  ∃ rest, Rest limit cs rest ∧ rest ≠ [] ∧ StartsBlank limit rest

end Chunk

open Chunk (HasBlank Legible StartsBlank)

namespace Dialogue

/-- What a dialogue asks it asks when it goes on with another one, too. -/
theorem AsksAfter.bind {P : Service} {α β : Type} {d : Dialogue P α} {os : List (Event P)}
    {q : P.Request} (h : d.AsksAfter os q) (f : α → Dialogue P β) : (d.bind f).AsksAfter os q := by
  induction h with
  | here q rest => exact .here q _
  | said _ ih => exact .said ih
  | asked reply _ ih => exact .asked reply ih

end Dialogue

namespace Outbox

/-! ## Pieces -/

/-- What is sent without files of a text: one of its chunks. -/
structure Piece (text content : String) : Prop where
  /-- The text itself is not blank. -/
  source : Text.allBlank text = false
  short : content.length ≤ 2000
  nonempty : content ≠ ""
  /-- What is left of the text where the chunk starts tells whether it is blank. -/
  blank_iff : ∃ rest, Chunk.Rest 2000 text.toList rest ∧ rest ≠ [] ∧
    content = String.ofList (Chunk.first 2000 rest) ∧
      (Text.allBlank content = true ↔ StartsBlank 2000 rest)
  /-- No piece is blank of a text in which no line is blank or too long for one message. -/
  legible : Legible 2000 text.toList → Text.allBlank content = false

/-- A text that is not blank has characters. -/
theorem toList_ne_nil_of_not_blank {text : String} (h : Text.allBlank text = false) :
    text.toList ≠ [] := by
  intro hnil
  rw [Text.allBlank, hnil] at h
  cases h

/-- A text is blank where each of its characters is. -/
theorem allBlank_iff {cs : List Char} :
    Text.allBlank (String.ofList cs) = true ↔ ∀ c ∈ cs, Text.isBlank c = true := by
  rw [Text.allBlank, String.toList_ofList, List.all_eq_true]

/-- The chunks of a text. -/
theorem mem_split_iff {text content : String} (h : Text.allBlank text = false) :
    content ∈ Chunk.split Chunk.maxLength text ↔
      ∃ rest, Chunk.Rest 2000 text.toList rest ∧ rest ≠ [] ∧
        content = String.ofList (Chunk.first 2000 rest) := by
  have hne := toList_ne_nil_of_not_blank h
  have hchunks := fun chunk => @Chunk.mem_chunks_iff 2000 text.toList (by decide) hne chunk
  constructor
  · intro hcontent
    obtain ⟨chunk, hchunk, rfl⟩ := List.mem_map.mp hcontent
    obtain ⟨rest, hrest, hsome, rfl⟩ := (hchunks chunk).mp hchunk
    exact ⟨rest, hrest, hsome, rfl⟩
  · rintro ⟨rest, hrest, hsome, rfl⟩
    exact List.mem_map_of_mem ((hchunks _).mpr ⟨rest, hrest, hsome, rfl⟩)

/-- The chunks that a text is split into are its pieces. -/
theorem piece_of_mem_split {text content : String} (h : Text.allBlank text = false)
    (hcontent : content ∈ Chunk.split Chunk.maxLength text) : Piece text content := by
  obtain ⟨rest, hrest, hsome, hfirst⟩ := (mem_split_iff h).mp hcontent
  have hblank : Text.allBlank content = true ↔ StartsBlank 2000 rest := by
    rw [hfirst, allBlank_iff, Chunk.blank_first_iff]
  refine ⟨h, ?_, ?_, ⟨rest, hrest, hsome, hfirst, hblank⟩, fun hlegible => ?_⟩
  · exact Int.ofNat_le.mp (Chunk.length_le_of_mem_split (by decide) hcontent)
  · rw [hfirst, Ne, String.ofList_eq_empty_iff]
    exact Chunk.first_ne_nil (by decide) hsome
  · refine Bool.eq_false_iff.mpr fun hyes => ?_
    exact (hrest.legible hlegible).not_startsBlank (hblank.mp hyes)

/-- Where a piece is blank, some chunk of its text is. -/
theorem Piece.hasBlank {text content : String} (h : Piece text content)
    (hblank : Text.allBlank content = true) : HasBlank 2000 text.toList := by
  obtain ⟨rest, hrest, hsome, -, hiff⟩ := h.blank_iff
  exact ⟨rest, hrest, hsome, hiff.mp hblank⟩

/-- A text that has a blank chunk has a blank piece. -/
theorem exists_blank_of_hasBlank {text : String} (h : Text.allBlank text = false)
    (hblank : HasBlank 2000 text.toList) :
    ∃ content ∈ Chunk.split Chunk.maxLength text, Text.allBlank content = true := by
  obtain ⟨rest, hrest, hsome, hstarts⟩ := hblank
  refine ⟨_, (mem_split_iff h).mpr ⟨rest, hrest, hsome, rfl⟩, ?_⟩
  rw [allBlank_iff, Chunk.blank_first_iff]
  exact hstarts

/-! ## What is sent without files -/

variable {place : Place} {os : List (Event Chat.service)} {channel content : String}

/-- Every message may be asked for: the chat platform may have accepted those before it. -/
theorem asksAfter_of_mem {last : Option String} {ms : List (String × List String)}
    {m : String × List String} (h : m ∈ ms) :
    ∃ os, (sendAll channel last ms).AsksAfter os (.send channel m.1 m.2) := by
  induction ms generalizing last with
  | nil => cases h
  | cons first rest ih =>
    rcases List.mem_cons.mp h with rfl | h
    · exact ⟨[], .here (P := Chat.service) _ _⟩
    · obtain ⟨os, hos⟩ := ih h
      exact ⟨_, .asked (P := Chat.service) (q := .send channel first.1 first.2) (.ok none) hos⟩

/-- A message of output without files is a piece of its text. -/
theorem piece_of_mem_messages {p : Pending} (h : (content, []) ∈ p.messages) :
    Piece p.text content := by
  have hmakes := p.makes_messages
  cases hblank : Text.allBlank p.text with
  | false =>
    have hcontents := hmakes.contents hblank
    exact piece_of_mem_split hblank (hcontents ▸ List.mem_map_of_mem h)
  | true =>
    by_cases hfiles : p.files = []
    · rw [hmakes.nothing hblank hfiles] at h
      cases h
    · rw [hmakes.alone hblank hfiles, List.mem_singleton] at h
      exact absurd (congrArg Prod.snd h).symm hfiles

/-- The texts that directives send: the output of directives that are held back one after the
other, and the messages. -/
inductive Source (ds : List Directive) : String → Prop where
  | output {run : List Directive} (part : run <:+: ds) (held : ∀ d ∈ run, d.isHeld = true) :
    Source ds (Pending.ofRun run).text
  | send {message : String} (mem : .send message ∈ ds) : Source ds message
  | sendTo {ref message : String} (mem : .sendTo ref message ∈ ds) : Source ds message

/-- What is sent for some of the directives is sent for all of them. -/
theorem Source.mono {ds ds' : List Directive} {text : String} (h : Source ds text)
    (hds : ds <:+: ds') : Source ds' text := by
  cases h with
  | output part held => exact .output (part.trans hds) held
  | send mem => exact .send (hds.subset mem)
  | sendTo mem => exact .sendTo (hds.subset mem)

/-- What is sent without files is a piece of one of these texts. -/
def SendsOf (texts : String → Prop) (q : Chat.Request) : Prop :=
  ∀ channel content, q = .send channel content [] → ∃ text, texts text ∧ Piece text content

/-- Messages are sent as they are. -/
theorem asks_sendAll (last : Option String) (ms : List (String × List String)) :
    (sendAll channel last ms).Asks fun q : Chat.Request =>
      ∃ m ∈ ms, q = .send channel m.1 m.2 := by
  induction ms generalizing last with
  | nil => trivial
  | cons m rest ih =>
    refine ⟨⟨m, List.mem_cons_self, rfl⟩, fun reply => ?_⟩
    match reply with
    | .error e => trivial
    | .ok (id : Option String) =>
      refine (ih id).mono ?_
      rintro q ⟨m', hm', rfl⟩
      exact ⟨m', List.mem_cons_of_mem _ hm', rfl⟩

variable {texts : String → Prop}

/-- Reacting sends no message. -/
theorem sends_reactAll (message : String) (emojis : List String) :
    (reactAll channel message emojis).Asks (SendsOf texts) := by
  induction emojis with
  | nil => trivial
  | cons emoji rest ih =>
    refine ⟨nofun, fun reply => ?_⟩
    cases reply <;> exact ih

/-- Sending what is held back sends pieces of its text. -/
theorem sends_flush {p : Pending} (hp : texts p.text) :
    (flush place p).Asks (SendsOf texts) := by
  unfold flush
  split
  · trivial
  · refine Dialogue.asks_bind ((asks_sendAll none p.messages).mono ?_) fun r => ?_
    · rintro q ⟨⟨content, files⟩, hm, rfl⟩ channel content' hq
      cases hq
      exact ⟨p.text, hp, piece_of_mem_messages hm⟩
    · match r with
      | .error e => trivial
      | .ok none => trivial
      | .ok (some id) => exact sends_reactAll id p.emojis

/-- Sending a message sends pieces of it. -/
theorem sends_sendMessage {tag channel message : String} (hmessage : texts message) :
    (sendMessage tag channel message).Asks (SendsOf texts) := by
  unfold sendMessage
  split
  · trivial
  · rename_i hblank
    refine Dialogue.asks_bind ((asks_sendAll none _).mono ?_) fun r => ?_
    · rintro q ⟨m, hm, rfl⟩ channel content hq
      obtain ⟨chunk, hchunk, rfl⟩ := List.mem_map.mp hm
      cases hq
      exact ⟨message, hmessage, piece_of_mem_split (Bool.eq_false_iff.mpr hblank) hchunk⟩
    · cases r <;> trivial

/-- A directive that does something by itself sends nothing but its message. -/
theorem sends_act {d : Directive} {act : Act Unit} (hd : d.act? place = some act)
    (hsource : ∀ text, Source [d] text → texts text) : act.Asks (SendsOf texts) := by
  cases d with
  | reaction messageId emoji remove =>
    cases hd
    refine ⟨?_, fun reply => ?_⟩
    · cases remove <;> exact nofun
    · cases reply <;> trivial
  | delete messageId =>
    cases hd
    refine ⟨nofun, fun reply => ?_⟩
    match reply with
    | .error e => trivial
    | .ok (message : Message) =>
      refine ⟨nofun, fun reply => ?_⟩
      match reply with
      | .error e => trivial
      | .ok (own : String) =>
        dsimp only
        split
        · refine ⟨nofun, fun reply => ?_⟩
          cases reply <;> trivial
        · trivial
  | send message =>
    cases hd
    exact sends_sendMessage (hsource message (.send (List.mem_singleton.mpr rfl)))
  | sendTo ref message =>
    cases hd
    refine ⟨nofun, fun reply => ?_⟩
    match reply with
    | .error e => trivial
    | .ok none => trivial
    | .ok (some (channel : Chat.Channel)) =>
      exact sends_sendMessage (hsource message (.sendTo (List.mem_singleton.mpr rfl)))
  | text _ | media _ | reactions _ | nop | history _ | exec _ => cases hd

/-- Behind a run that is held back, directives send nothing but their texts, and what is held back
at the end is a run of them. -/
theorem sends_play {run ds : List Directive} (hrun : ∀ d ∈ run, d.isHeld = true)
    (htexts : ∀ text, Source (run ++ ds) text → texts text) :
    (play place (.ofRun run) ds).Asks (SendsOf texts) ∧
      (play place (.ofRun run) ds).Yields fun r => texts r.1.text := by
  induction ds generalizing run with
  | nil =>
    rw [List.append_nil] at htexts
    exact ⟨trivial, htexts _ (.output List.infix_rfl hrun)⟩
  | cons d rest ih =>
    have hflush : (flush place (.ofRun run)).Asks (SendsOf texts) :=
      sends_flush (htexts _ (.output (List.prefix_append _ _).isInfix hrun))
    have hd : [d] <:+: run ++ d :: rest := ⟨run, rest, by rw [List.append_assoc]; rfl⟩
    have hrest : ([] ++ rest) <:+: run ++ d :: rest :=
      ⟨run ++ [d], [], by rw [List.append_nil, List.append_assoc]; rfl⟩
    have hnone : ∀ d ∈ ([] : List Directive), d.isHeld = true := List.forall_mem_nil _
    rcases d.kinds place with hheld | ⟨act, hact⟩ | ⟨question, hquestion⟩
    · have hmore : ∀ d' ∈ run ++ [d], d'.isHeld = true :=
        List.forall_mem_append.mpr ⟨hrun, List.forall_mem_singleton.mpr hheld⟩
      rw [List.append_cons] at htexts
      rw [play_of_held hheld, Pending.hold_ofRun hheld]
      exact ih hmore htexts
    · obtain ⟨hasks, hyields⟩ := ih hnone fun text h => htexts text (h.mono hrest)
      have hown := sends_act hact fun text h => htexts text (h.mono hd)
      rw [play_of_act hact]
      exact ⟨Dialogue.asks_bind hflush fun _ => Dialogue.asks_bind hown fun _ => hasks,
        Dialogue.yields_bind_of_forall fun _ => Dialogue.yields_bind_of_forall fun _ => hyields⟩
    · rw [play_of_question hquestion]
      have hempty : texts (Pending.ofRun []).text :=
        htexts _ (.output (List.nil_infix) hnone)
      exact ⟨Dialogue.asks_bind hflush fun _ => trivial,
        Dialogue.yields_bind_of_forall fun _ => hempty⟩

/-- With nothing held back in the beginning, directives send nothing but their texts. -/
theorem sends_play_nil (ds : List Directive) :
    (play place (.ofRun []) ds).Asks (SendsOf (Source ds)) ∧
      (play place (.ofRun []) ds).Yields fun r => Source ds r.1.text :=
  sends_play (List.forall_mem_nil _) fun _ h => h

/-- Directives send nothing without files but pieces of their texts. -/
theorem sends_dispatch (ds : List Directive) :
    (dispatch place ds).Asks (SendsOf (Source ds)) := by
  obtain ⟨hasks, hyields⟩ := @sends_play_nil place ds
  rw [dispatch_eq]
  refine Dialogue.asks_bind_of_yields hasks hyields fun r hr => ?_
  match r with
  | (_, some question) => trivial
  | (p, none) => exact Dialogue.asks_bind (sends_flush hr) fun _ => trivial

/-- The dispatch of directives sends pieces of what they hold. -/
theorem sends_dispatchUntil (ds : List Directive) (shown : String) :
    (dispatchUntil place ds shown).Asks (SendsOf (Source ds)) := by
  refine Dialogue.asks_bind (sends_play_nil ds).1 fun r => ?_
  match r with
  | (_, some question) => trivial
  | (p, none) => trivial

/-! ## When a blank message is sent -/

/-- Without files every chunk of the text is a message by itself. -/
theorem messages_of_no_files {p : Pending} (hfiles : p.files = [])
    (hblank : Text.allBlank p.text = false) :
    p.messages = (Chunk.split Chunk.maxLength p.text).map (·, []) := by
  have hchunks : p.chunks = Chunk.split Chunk.maxLength p.text := by
    rw [Pending.chunks, hblank, if_neg Bool.false_ne_true]
  rw [Pending.messages, hchunks, hfiles]
  cases Chunk.split Chunk.maxLength p.text <;> rfl

/-- Output without files is blank in part if and only if its text has a blank chunk. -/
theorem blank_flush_iff {p : Pending} (hfiles : p.files = [])
    (hblank : Text.allBlank p.text = false) :
    (∃ os channel content, (flush place p).AsksAfter os (.send channel content []) ∧
      Text.allBlank content = true) ↔ HasBlank 2000 p.text.toList := by
  constructor
  · rintro ⟨os, channel, content, hasks, hcontent⟩
    have hsends : (flush place p).Asks (SendsOf (· = p.text)) := sends_flush rfl
    obtain ⟨_, rfl, hpiece⟩ := hasks.asks hsends _ _ rfl
    exact hpiece.hasBlank hcontent
  · intro hhas
    obtain ⟨content, hcontent, hyes⟩ := exists_blank_of_hasBlank hblank hhas
    have hmem : (content, []) ∈ p.messages := by
      rw [messages_of_no_files hfiles hblank]
      exact List.mem_map_of_mem hcontent
    obtain ⟨os, hos⟩ := @asksAfter_of_mem place.outputChannelId none _ _ hmem
    have hsome : ¬p.messages.isEmpty = true := by
      rw [List.isEmpty_iff]
      exact List.ne_nil_of_mem hmem
    have hflush : (flush place p).AsksAfter
        (.said s!"[flush] -> {place.outputChannelId}: \"{p.preview}\"" :: os)
        (.send place.outputChannelId content []) := by
      rw [flush, if_neg hsome]
      exact .said (hos.bind _)
    exact ⟨_, _, content, hflush, hyes⟩

/-- Nothing is done for no directive. -/
theorem dispatch_nil (place : Place) : dispatch place [] = .done none := by
  have hblank : Text.allBlank (Pending.text {}) = true := by decide +kernel
  have hmessages : Pending.messages {} = [] := (Pending.makes_messages {}).nothing hblank rfl
  have hflush : flush place {} = .done () := by rw [flush, hmessages, List.isEmpty_nil, if_pos rfl]
  rw [dispatch_eq]
  exact congrArg (Dialogue.bind · fun _ => .done none) hflush

/-- A message that stands alone is sent, and nothing else is done. -/
theorem dispatch_send (place : Place) (message : String) :
    dispatch place [.send message] =
      (sendMessage "[!discord send]" place.channelId message).bind fun _ => .done none := by
  have hact := @dispatch_of_act place [] (List.forall_mem_nil _) (.send message) _ rfl []
  rw [dispatch_nil] at hact
  exact hact

/-- A message is blank in part if and only if it has a blank chunk. -/
theorem blank_send_iff {message : String} (hblank : Text.allBlank message = false) :
    (∃ os channel content, (dispatch place [.send message]).AsksAfter os
      (.send channel content []) ∧ Text.allBlank content = true) ↔
        HasBlank 2000 message.toList := by
  rw [dispatch_send]
  constructor
  · rintro ⟨os, channel, content, hasks, hcontent⟩
    have hsends : (sendMessage "[!discord send]" place.channelId message).Asks
        (SendsOf (· = message)) := sends_sendMessage rfl
    obtain ⟨_, rfl, hpiece⟩ := (Dialogue.asksAfter_of_bind_done hasks).asks hsends _ _ rfl
    exact hpiece.hasBlank hcontent
  · intro hhas
    obtain ⟨content, hcontent, hyes⟩ := exists_blank_of_hasBlank hblank hhas
    have hmem := List.mem_map_of_mem (f := ((·, []) : String → String × List String)) hcontent
    obtain ⟨os, hos⟩ := @asksAfter_of_mem place.channelId none _ _ hmem
    have hsend : (sendMessage "[!discord send]" place.channelId message).AsksAfter os
        (.send place.channelId content []) := by
      rw [sendMessage, if_neg (by rw [hblank]; exact Bool.false_ne_true)]
      exact hos.bind _
    exact ⟨os, _, content, hsend.bind _, hyes⟩

/-- **A message without files is a piece of a text that is not blank, and it may be blank itself.**
Whatever is held back, whatever the directives are and whatever the chat platform answers, all that
is sent without files is one of the chunks of a text that is not blank, which has at most 2000
characters. It is blank if and only if what is left of the text starts with a stretch of blanks that
is a chunk; no line of the text being blank or too long for one message, it is not. On some
behaviour of the chat platform a blank message is sent if and only if the text has such a chunk. -/
theorem plain_send (place : Place) (p : Pending) (ds : List Directive) (shown : String) :
    (flush place p).Asks (SendsOf (· = p.text)) ∧
    (dispatch place ds).Asks (SendsOf (Source ds)) ∧
    (dispatchUntil place ds shown).Asks (SendsOf (Source ds)) ∧
    (p.files = [] → Text.allBlank p.text = false →
      ((∃ os channel content, (flush place p).AsksAfter os (.send channel content []) ∧
        Text.allBlank content = true) ↔ HasBlank 2000 p.text.toList)) ∧
    ∀ message, Text.allBlank message = false →
      ((∃ os channel content, (dispatch place [.send message]).AsksAfter os
        (.send channel content []) ∧ Text.allBlank content = true) ↔
          HasBlank 2000 message.toList) :=
  ⟨sends_flush rfl, sends_dispatch ds, sends_dispatchUntil ds shown, blank_flush_iff,
    fun _ => blank_send_iff⟩

/-- A line of `n` characters with a blank behind them. -/
def trailing (n : Nat) : List Char := List.replicate n 'a' ++ [' ']

/-- At a limit of as many characters the blank is a chunk by itself. -/
theorem hasBlank_trailing {n : Nat} (h : 0 < n) :
    HasBlank n (String.ofList (trailing n)).toList := by
  rw [String.toList_ofList]
  have hlong : n < (trailing n).length := by
    rw [trailing, List.length_append, List.length_replicate]
    exact Nat.lt_succ_self n
  have hcut : Chunk.IsCut n (trailing n) n := by
    refine .hard fun j _ _ hj => ?_
    rcases List.mem_append.mp (List.mem_of_getElem? hj) with hmem | hmem
    · exact absurd (List.mem_replicate.mp hmem).2 (by decide)
    · exact absurd (List.mem_singleton.mp hmem) (by decide)
  have hrest : Chunk.remainder n (trailing n) = [' '] := by
    rw [Chunk.remainder, (Chunk.isCut_cutLength hlong).unique hcut, trailing,
      List.drop_left' List.length_replicate]
    rfl
  have hblank : ∀ c ∈ [' '], Text.isBlank c = true := List.forall_mem_singleton.mpr (by decide)
  exact ⟨[' '], hrest ▸ .behind .whole hlong, List.cons_ne_nil _ _, .short h hblank⟩

/-- Letters with a blank behind them are not a blank text. -/
theorem trailing_not_blank {n : Nat} (h : 0 < n) :
    Text.allBlank (String.ofList (trailing n)) = false := by
  rw [Text.allBlank, String.toList_ofList, List.all_eq_false]
  have hmem : 'a' ∈ trailing n :=
    List.mem_append_left _ (List.mem_replicate.mpr ⟨Nat.ne_of_gt h, rfl⟩)
  exact ⟨'a', hmem, by decide⟩

/-- Behind a line of 2000 characters a blank is sent by itself, as output and as a message. -/
theorem plain_send_trailing :
    let place := Place.of "100" "general" none
    let message := String.ofList (trailing 2000)
    let p : Pending := { lines := [message] }
    p.files = [] ∧ Text.allBlank p.text = false ∧ Text.allBlank message = false ∧
      (∃ os channel content, (flush place p).AsksAfter os (.send channel content []) ∧
        Text.allBlank content = true) ∧
      ∃ os channel content, (dispatch place [.send message]).AsksAfter os
        (.send channel content []) ∧ Text.allBlank content = true := by
  intro place message p
  have hblank : Text.allBlank message = false := trailing_not_blank (by decide)
  have htext : p.text = message := rfl
  have hhas : HasBlank 2000 message.toList := hasBlank_trailing (by decide)
  obtain ⟨-, -, -, hflush, hsend⟩ := plain_send place p [.send message] ""
  exact ⟨rfl, hblank, hblank, (hflush rfl hblank).mpr hhas, (hsend message hblank).mpr hhas⟩

/-- What is sent without files need not have a character to read. -/
theorem not_all_sends_legible : ¬∀ (place : Place) (ds : List Directive)
    (os : List (Event Chat.service)) (channel content : String),
      (dispatch place ds).AsksAfter os (.send channel content []) →
        content.length ≤ 2000 ∧ ∃ c ∈ content.toList, Text.isBlank c = false := by
  intro h
  have htext : Text.allBlank (String.ofList (trailing 2000)) = false :=
    trailing_not_blank (by decide)
  have hhas : HasBlank 2000 (String.ofList (trailing 2000)).toList := hasBlank_trailing (by decide)
  obtain ⟨os, channel, content, hasks, hblank⟩ := (blank_send_iff htext).mpr hhas
  obtain ⟨-, c, hc, hread⟩ := h (Place.of "100" "general" none) _ os channel content hasks
  rw [List.all_eq_true.mp hblank c hc] at hread
  cases hread

end Outbox

end ChatRelay
