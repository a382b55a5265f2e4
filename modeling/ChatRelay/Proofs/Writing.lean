import ChatRelay.Proofs.Commands
import ChatRelay.Proofs.Response
import Mathlib.Data.List.Forall2

/-!
# Directives are read as they are written

Every directive that fits on one line can be written as one: `Directive.Written` lists the ways to
do so. The line is a command of its own form and of no other, its pieces are read back, and so
any number of directives, each on a line of its own, are read back in their order.

The main statement is `Response.read_written`.
-/

namespace ChatRelay

open Reader Text

/-! ## What can be written -/

/-- A message that can be written on the line of its command: it does not open a heredoc. -/
structure IsMessage (s : String) : Prop extends IsContent s where
  no_opener : ∀ word : String, word ≠ "" → (∀ c ∈ word.toList, isWordChar c = true) →
    s ≠ "<<" ++ word

/-- A name of a channel: it is not empty and has no blanks. -/
structure IsChannelName (s : String) : Prop where
  nonempty : s ≠ ""
  no_blank : ∀ c ∈ s.toList, isBlank c = false

/-- The arguments of a history command as they are written. -/
def HistoryArguments.written (count : Nat) (channel : Option String) (offset : Nat) : String :=
  " " ++ toString count ++ (channel.elim "" fun s => " <#" ++ s ++ ">") ++ " offset:" ++
    toString offset

/-- A directive, and a line that it is written as. -/
inductive Directive.Written : Directive → String → Prop where
  | nop : Written .nop "!discord nop"
  | reaction {messageId emoji : String} (remove : Bool) (id : IsNumber messageId)
      (nonempty : emoji ≠ "") (line : IsLine emoji) (trimmed : Line.trimmed emoji = emoji)
      (no_minus : emoji.toList.head? ≠ some '-') :
      Written (.reaction messageId emoji remove)
        ("!discord reaction " ++ messageId ++ " " ++ ((if remove then "-" else "") ++ emoji))
  | history {count offset : Nat} {channel : Option String}
      (few : count ≤ HistoryArguments.maxCount) (id : ∀ s, channel = some s → IsNumber s)
      (short : (toString offset).length ≤ Numeral.limit) :
      Written (.history { count, channel, offset })
        ("!discord history" ++ HistoryArguments.written count channel offset)
  | delete {messageId : String} (id : IsNumber messageId) :
      Written (.delete messageId) ("!discord delete " ++ messageId)
  | deleteLink {guild channel messageId : String} (guildId : IsNumber guild)
      (channelId : IsNumber channel) (id : IsNumber messageId) :
      Written (.delete messageId)
        ("!discord delete https://discord.com/channels/" ++ guild ++ "/" ++ channel ++ "/" ++
          messageId)
  | exec {messageId : String} (id : IsNumber messageId) :
      Written (.exec messageId) ("!discord exec " ++ messageId)
  | send {message : String} (content : IsMessage message) :
      Written (.send message) ("!discord send " ++ message)
  | sendTo {channel message : String} (name : IsChannelName channel)
      (content : IsMessage message) :
      Written (.sendTo channel message) ("!discord sendto #" ++ channel ++ " " ++ message)
  | sendToMention {channel message : String} (id : IsNumber channel)
      (content : IsMessage message) :
      Written (.sendTo channel message) ("!discord sendto <#" ++ channel ++ "> " ++ message)
  | media {path : String} (nonempty : path ≠ "") (line : IsLine path)
      (trimmed : Line.trimmed path = path) : Written (.media path) ("media: " ++ path)
  | reactions {emojis : List String} (content : IsContent (" ".intercalate emojis))
      (apart : Emoji.splitText (" ".intercalate emojis) = emojis) :
      Written (.reactions emojis) ("reactions: " ++ " ".intercalate emojis)
  | text {content : String} (line : IsLine content)
      (no_command : Command.ofLine? content = none) : Written (.text content) content

/-! ## Pieces -/

/-- Only a word behind `<<` opens a heredoc. -/
theorem Reference.eq_opening_of_delimiter? {content delimiter : String} (hline : IsLine content)
    (h : delimiter? content = some delimiter) : content = "<<" ++ delimiter ∧ delimiter ≠ "" := by
  refine ⟨?_, delimiter?_ne_empty h⟩
  obtain ⟨rest, hrest, h⟩ := Option.bind_eq_some_iff.mp h
  obtain ⟨⟨run, after⟩, hrun, h⟩ := Option.bind_eq_some_iff.mp h
  have hlist : content.toList = "<<".toList ++ (run ++ after) := by
    rw [keyword?_split hrest, run?_split hrun]
  dsimp only at h
  split at h
  · rename_i hend
    cases h
    have hafter : after = [] := eq_nil_of_isLineEnd hend fun hmem => hline <| by
      rw [hlist]
      exact List.mem_append_right _ (List.mem_append_right _ hmem)
    apply String.toList_injective
    rw [String.toList_append, @String.toList_ofList run, hlist, hafter, List.append_nil]
  · cases h

/-- A message that does not open a heredoc has no delimiter. -/
theorem IsMessage.delimiter?_eq_none {s : String} (h : IsMessage s) :
    Reference.delimiter? s = none := by
  cases hd : Reference.delimiter? s with
  | none => rfl
  | some word =>
    obtain ⟨hopening, hne⟩ := Reference.eq_opening_of_delimiter? h.line hd
    exact absurd hopening (h.no_opener word hne (Reference.delimiter?_sound hd))

namespace Reference

/-- A mention is the channel with its digits. -/
theorem mention?_written {s : String} (h : IsNumber s) :
    mention? ("<#".toList ++ (s.toList ++ ">".toList)) = some s.toList := by
  have hdigits := h.digits?_append ">".toList fun c hc => by cases hc; decide
  simp only [mention?, keyword?_append, hdigits, Option.bind_some]
  rfl

/-- A mention names the channel with its digits. -/
theorem channelText_mention {s : String} (h : IsNumber s) :
    channelText ("<#" ++ s ++ ">") = s := by
  have hlist : ("<#" ++ s ++ ">").toList = "<#".toList ++ (s.toList ++ ">".toList) := by
    rw [String.toList_append, String.toList_append, List.append_assoc]
  simp only [channelText, channel, hlist, mention?_written h, Option.some_or, Option.getD_some,
    String.ofList_toList]

/-- A name behind a hash sign names its channel. -/
theorem channelText_hash {s : String} (h : IsChannelName s) : channelText ("#" ++ s) = s := by
  have hnil : s.toList ≠ [] := fun hnil => h.nonempty (String.toList_eq_nil_iff.mp hnil)
  have hmention : mention? ("#".toList ++ s.toList) = none := rfl
  have hword : word? s.toList = some (s.toList, []) := by
    have hclass : ∀ c ∈ s.toList, (!isBlank c) = true := by
      intro c hc
      rw [h.no_blank c hc]
      rfl
    have hrun := run?_append hnil hclass [] fun c hc => by cases hc
    rwa [List.append_nil] at hrun
  have hname : hashName? ("#".toList ++ s.toList) = some s.toList := by
    simp only [hashName?, keyword?_append, hword, Option.bind_some]
    rfl
  simp only [channelText, channel, String.toList_append, hmention, hname, Option.none_or,
    Option.getD_some, String.ofList_toList]

end Reference

/-- The command to send a message to the channel with a name is recognised. -/
theorem Command.ofLine?_sendTo_hash {name content : String} (hname : IsChannelName name)
    (hcontent : IsContent content) :
    ofLine? ("!discord sendto #" ++ name ++ " " ++ content) =
      some (.sendTo ("#" ++ name) content) := by
  have hline : "!discord sendto #" ++ name ++ " " ++ content =
      "!discord sendto " ++ ("#" ++ name) ++ " " ++ content := by
    apply String.toList_injective
    simp only [String.toList_append, List.append_assoc]
    rfl
  have hblank : ∀ c ∈ ("#" ++ name).toList, isBlank c = false := by
    rw [String.toList_append, List.forall_mem_append]
    exact ⟨no_blank_of_all (by decide), hname.no_blank⟩
  have hne : "#" ++ name ≠ "" := by
    intro hempty
    have hlist := congrArg String.toList hempty
    rw [String.toList_append] at hlist
    cases hlist
  rw [hline, ofLine?_sendTo hne hblank hcontent]

namespace HistoryArguments

/-- What a word without a kind changes, and what a word of a kind changes. -/
theorem readWords_cons {request : HistoryRequest} {word : List Char} {argument : Argument}
    (h : Argument.of? word = some argument) (rest : List (List Char)) :
    readWords request (word :: rest) =
      (argument.apply request).bind fun request => readWords request rest := by
  rw [readWords, h]

/-- A bare number is a number of messages. -/
theorem of?_count {s : String} (h : IsNumber s) :
    Argument.of? s.toList = some (.count s.toList) := by
  have hoffset : offset? s.toList = none := by
    have hkeyword := h.keyword?_append "offset:" rfl (by decide) []
    rw [List.append_nil] at hkeyword
    rw [offset?, hkeyword, Option.bind_none]
  have hmention : Reference.mention? s.toList = none := by
    have hkeyword := h.keyword?_append "<#" rfl (by decide) []
    rw [List.append_nil] at hkeyword
    rw [Reference.mention?, hkeyword, Option.bind_none]
  simp only [Argument.of?, hoffset, hmention, h.lastDigits?_toList, Option.map_none,
    Option.none_or, Option.map_some]

/-- A mention is a channel. -/
theorem of?_channel {s : String} (h : IsNumber s) :
    Argument.of? ("<#".toList ++ (s.toList ++ ">".toList)) = some (.channel s.toList) := by
  have hoffset : offset? ("<#".toList ++ (s.toList ++ ">".toList)) = none := rfl
  simp only [Argument.of?, hoffset, Reference.mention?_written h, Option.map_none,
    Option.none_or, Option.map_some, Option.some_or]

/-- A number behind `offset:` is an offset. -/
theorem of?_offset {s : String} (h : IsNumber s) :
    Argument.of? ("offset:".toList ++ s.toList) = some (.offset s.toList) := by
  have hoffset : offset? ("offset:".toList ++ s.toList) = some s.toList := by
    rw [offset?, keyword?_append, Option.bind_some, h.lastDigits?_toList]
  simp only [Argument.of?, hoffset, Option.map_some, Option.some_or]

/-- A small number of messages is asked for as it is. -/
theorem apply_count {count : Nat} (few : count ≤ maxCount) (request : HistoryRequest) :
    (Argument.count (toString count).toList).apply request = .ok { request with count } := by
  have hshort : (toString count).length ≤ Numeral.limit := by
    have hdigits : (Nat.toDigits 10 count).length ≤ 3 :=
      (Nat.length_toDigits_le_iff (by decide) (by decide)).mpr
        (Nat.lt_of_le_of_lt few (by decide))
    have hlimit : 3 ≤ Numeral.limit := by decide
    rw [Nat.toString_eq_ofList_toDigits, String.length_ofList]
    omega
  simp only [Argument.apply, Numeral.ofDigits_toString hshort, Except.map, Nat.min_eq_left few]

/-- An offset that is written is applied. -/
theorem apply_offset {offset : Nat} (short : (toString offset).length ≤ Numeral.limit)
    (request : HistoryRequest) :
    (Argument.offset (toString offset).toList).apply request = .ok { request with offset } := by
  rw [Argument.apply, Numeral.ofDigits_toString short]
  rfl

/-- The words of the arguments of a history command. -/
theorem words_written {channel : Option String} (id : ∀ s, channel = some s → IsNumber s)
    (count offset : Nat) :
    words (written count channel offset).toList =
      (toString count).toList ::
        ((channel.map fun s => "<#".toList ++ (s.toList ++ ">".toList)).toList ++
          ["offset:".toList ++ (toString offset).toList]) := by
  have hcount := isNumber_toString count
  have hlast : ∀ c ∈ "offset:".toList ++ (toString offset).toList, isBlank c = false := by
    rw [List.forall_mem_append]
    exact ⟨no_blank_of_all (by decide), (isNumber_toString offset).no_blank⟩
  cases channel with
  | none =>
    have hlist : (written count none offset).toList =
        ' ' :: ((toString count).toList ++ ' ' ::
          ("offset:".toList ++ (toString offset).toList)) := by
      simp only [written, Option.elim_none, String.toList_append, List.append_assoc]
      rfl
    rw [hlist, words_blank (by decide), words_append hcount.toList_ne_nil hcount.no_blank
      (by decide), words_of_no_blank (by simp) hlast]
    rfl
  | some s =>
    have hmention : ∀ c ∈ "<#".toList ++ (s.toList ++ ">".toList), isBlank c = false := by
      simp only [List.forall_mem_append]
      exact ⟨no_blank_of_all (by decide), (id s rfl).no_blank, no_blank_of_all (by decide)⟩
    have hlist : (written count (some s) offset).toList =
        ' ' :: ((toString count).toList ++ ' ' ::
          (("<#".toList ++ (s.toList ++ ">".toList)) ++ ' ' ::
            ("offset:".toList ++ (toString offset).toList))) := by
      simp only [written, Option.elim_some, String.toList_append, List.append_assoc]
      rfl
    rw [hlist, words_blank (by decide), words_append hcount.toList_ne_nil hcount.no_blank
      (by decide), words_append (by simp) hmention (by decide), words_of_no_blank (by simp) hlast]
    rfl

/-- The arguments of a history command are read back. -/
theorem read_arguments {count offset : Nat} {channel : Option String} (few : count ≤ maxCount)
    (id : ∀ s, channel = some s → IsNumber s)
    (short : (toString offset).length ≤ Numeral.limit) :
    read (written count channel offset) = .ok { count, channel, offset } := by
  have hoffset := of?_offset (isNumber_toString offset)
  rw [read, words_written id, readWords_cons (of?_count (isNumber_toString count)),
    apply_count few, Except.bind]
  cases channel with
  | none =>
    rw [Option.map_none, Option.toList_none, List.nil_append, readWords_cons hoffset,
      apply_offset short]
    rfl
  | some s =>
    rw [Option.map_some, Option.toList_some, List.singleton_append,
      readWords_cons (of?_channel (id s rfl)), Argument.apply, Except.bind,
      readWords_cons hoffset, apply_offset short, String.ofList_toList]
    rfl

end HistoryArguments

/-! ## Lines -/

/-- The arguments of a history command are a line. -/
theorem HistoryArguments.isLine_written {channel : Option String}
    (id : ∀ s, channel = some s → IsNumber s) (count offset : Nat) :
    IsLine (written count channel offset) := by
  have hchannel : IsLine (channel.elim "" fun s => " <#" ++ s ++ ">") := by
    cases channel with
    | none => exact List.not_mem_nil
    | some s =>
      simp only [Option.elim_some, isLine_append]
      exact ⟨⟨by decide, (id s rfl).isLine⟩, by decide⟩
  simp only [written, isLine_append]
  exact ⟨⟨⟨⟨by decide, (isNumber_toString count).isLine⟩, hchannel⟩, by decide⟩,
    (isNumber_toString offset).isLine⟩

namespace Directive.Written

variable {d : Directive} {line : String}

/-- A directive is written as one line. -/
theorem isLine (h : Written d line) : IsLine line := by
  cases h with
  | nop => decide
  | reaction remove id nonempty line trimmed no_minus =>
    simp only [isLine_append]
    refine ⟨⟨⟨by decide, id.isLine⟩, by decide⟩, ?_, line⟩
    cases remove <;> decide
  | history few id short =>
    rw [isLine_append]
    exact ⟨by decide, HistoryArguments.isLine_written id _ _⟩
  | delete id => exact isLine_append.mpr ⟨by decide, id.isLine⟩
  | deleteLink guildId channelId id =>
    simp only [isLine_append]
    exact ⟨⟨⟨⟨⟨by decide, guildId.isLine⟩, by decide⟩, channelId.isLine⟩, by decide⟩, id.isLine⟩
  | exec id => exact isLine_append.mpr ⟨by decide, id.isLine⟩
  | send content => exact isLine_append.mpr ⟨by decide, content.line⟩
  | sendTo name content =>
    simp only [isLine_append]
    exact ⟨⟨⟨by decide, isLine_of_no_blank name.no_blank⟩, by decide⟩, content.line⟩
  | sendToMention id content =>
    simp only [isLine_append]
    exact ⟨⟨⟨by decide, id.isLine⟩, by decide⟩, content.line⟩
  | media nonempty line trimmed => exact isLine_append.mpr ⟨by decide, line⟩
  | reactions content apart => exact isLine_append.mpr ⟨by decide, content.line⟩
  | text line no_command => exact line

/-- A link to a message is read as its number, and the line deletes that message. -/
theorem read_deleteLink {guild channel messageId : String} (guildId : IsNumber guild)
    (channelId : IsNumber channel) (id : IsNumber messageId) :
    Line.read ("!discord delete https://discord.com/channels/" ++ guild ++ "/" ++ channel ++ "/" ++
      messageId) = .ok (.directive (.delete messageId)) := by
  have hline : "!discord delete https://discord.com/channels/" ++ guild ++ "/" ++ channel ++
      "/" ++ messageId = "!discord delete " ++
        ("https://discord.com/channels/" ++ guild ++ "/" ++ channel ++ "/" ++ messageId) := by
    apply String.toList_injective
    simp only [String.toList_append, List.append_assoc]
    rfl
  have hfirst : ∃ cs, ("https://discord.com/channels/" ++ guild ++ "/" ++ channel ++ "/" ++
      messageId).toList = 'h' :: cs := by
    simp only [String.toList_append, List.append_assoc]
    exact ⟨_, rfl⟩
  obtain ⟨cs, hfirst⟩ := hfirst
  have hread := Command.readMessage_link guildId channelId id
  simp only [Line.read, hline, Command.ofLine?_delete hfirst (by decide) (hread _),
    Line.ofCommand]

/-- A channel that is mentioned is addressed by its number. -/
theorem read_sendToMention {channel message : String} (id : IsNumber channel)
    (content : IsMessage message) :
    Line.read ("!discord sendto <#" ++ channel ++ "> " ++ message) =
      .ok (.directive (.sendTo channel message)) := by
  have hline : "!discord sendto <#" ++ channel ++ "> " ++ message =
      "!discord sendto " ++ ("<#" ++ channel ++ ">") ++ " " ++ message := by
    apply String.toList_injective
    simp only [String.toList_append, List.append_assoc]
    rfl
  have hblank : ∀ c ∈ ("<#" ++ channel ++ ">").toList, isBlank c = false := by
    simp only [String.toList_append, List.forall_mem_append]
    exact ⟨⟨no_blank_of_all (by decide), id.no_blank⟩, no_blank_of_all (by decide)⟩
  have hne : "<#" ++ channel ++ ">" ≠ "" := by
    intro hempty
    have hlist := congrArg String.toList hempty
    simp only [String.toList_append, List.append_assoc] at hlist
    cases hlist
  simp only [Line.read, hline, Command.ofLine?_sendTo hne hblank content.toIsContent,
    Line.ofCommand, content.delimiter?_eq_none, Reference.channelText_mention id]

/-- The line that a directive is written as is read as the directive. -/
theorem read (h : Written d line) : Line.read line = .ok (.directive d) := by
  cases h with
  | nop => simp only [Line.read, Command.ofLine?_nop, Line.ofCommand]
  | @reaction messageId emoji remove id nonempty line trimmed no_minus =>
    have content := isContent_of_trimmed nonempty line trimmed
    simp only [Line.read, Command.ofLine?_reaction remove id content no_minus, Line.ofCommand,
      trimmed]
  | @history count offset channel few id short =>
    have hline := HistoryArguments.isLine_written id count offset
    simp only [Line.read, Command.ofLine?_history hline, Line.ofCommand,
      HistoryArguments.read_arguments few id short]
    rfl
  | @delete messageId id =>
    cases hs : messageId.toList with
    | nil => exact absurd hs id.toList_ne_nil
    | cons c cs =>
      have hc : isBlank c = false := id.no_blank c (hs ▸ List.mem_cons_self)
      simp only [Line.read, Command.ofLine?_delete hs hc (Command.readMessage_number id),
        Line.ofCommand]
  | deleteLink guildId channelId id => exact read_deleteLink guildId channelId id
  | exec id => simp only [Line.read, Command.ofLine?_exec id, Line.ofCommand]
  | send content =>
    simp only [Line.read, Command.ofLine?_send content.toIsContent, Line.ofCommand,
      content.delimiter?_eq_none]
  | @sendTo channel message name content =>
    simp only [Line.read, Command.ofLine?_sendTo_hash name content.toIsContent, Line.ofCommand,
      content.delimiter?_eq_none, Reference.channelText_hash name]
  | sendToMention id content => exact read_sendToMention id content
  | media nonempty line trimmed =>
    have content := isContent_of_trimmed nonempty line trimmed
    simp only [Line.read, Command.ofLine?_media content, Line.ofCommand, trimmed]
  | reactions content apart =>
    simp only [Line.read, Command.ofLine?_reactions content, Line.ofCommand, apart]
  | text line no_command => simp only [Line.read, no_command]

end Directive.Written

/-! ## Texts -/

namespace Response

/-- Lines that are directives, each by itself, are scanned one by one. -/
theorem scan_of_read {ds : List Directive} {ls : List String}
    (h : List.Forall₂ (fun d l => Line.read l = .ok (.directive d)) ds ls) :
    scan .closed ls = .ok ds ∧ Heredoc.closed.after ls = .closed := by
  induction h with
  | nil => exact ⟨rfl, rfl⟩
  | @cons d line ds ls hline _ ih =>
    have hpass : Heredoc.closed.pass line = .closed := by
      simp only [Heredoc.pass, Heredoc.closed, hline]
    have hgiven : given .closed line = .ok [d] := by
      simp only [given, Heredoc.closed, hline]
      rfl
    have hcons : Heredoc.closed.after (line :: ls) = (Heredoc.closed.pass line).after ls := rfl
    constructor
    · rw [scan, hgiven, hpass, Except.bind, ih.1]
      rfl
    · rw [hcons, hpass, ih.2]

/-- **Directives are read as they are written.** Directives that are written on lines of their own,
in any of the ways to write each of them, are read back, all of them and in their order. -/
theorem read_written {ds : List Directive} {ls : List String} (hne : ds ≠ [])
    (h : List.Forall₂ Directive.Written ds ls) :
    (read (joinLines ls)).directives = .ok ds := by
  have hlines : ∀ l ∈ ls, IsLine l := by
    intro l hl
    obtain ⟨i, hi, rfl⟩ := List.getElem_of_mem hl
    exact ((List.forall₂_iff_get.mp h).2 i (h.length_eq ▸ hi) hi).isLine
  have hls : ls ≠ [] := by
    rintro rfl
    exact hne (List.forall₂_nil_right_iff.mp h)
  obtain ⟨hscan, hafter⟩ := scan_of_read (h.imp fun _ _ hwritten => hwritten.read)
  rw [read, splitLines_joinLines hls hlines, directives_ofLines, hscan, hafter]
  exact congrArg Except.ok (List.append_nil ds)

/-- Directives of several kinds, with a link, a mention and an empty line among them. -/
theorem read_written_mixed :
    let ds : List Directive := [.reaction "12" "👍" true,
      .history { count := 5, channel := some "7", offset := 30 }, .delete "9",
      .sendTo "7" "<< hi", .text "", .nop]
    let ls := ["!discord reaction 12 -👍", "!discord history 5 <#7> offset:30",
      "!discord delete https://discord.com/channels/1/2/9", "!discord sendto <#7> << hi", "",
      "!discord nop"]
    ds ≠ [] ∧ List.Forall₂ Directive.Written ds ls ∧
      (read (joinLines ls)).directives = .ok ds := by
  intro ds ls
  have hnumber : ∀ s ∈ ["1", "2", "7", "9", "12"], IsNumber s := by
    have hall : ∀ s ∈ ["1", "2", "7", "9", "12"], s ≠ "" ∧ s.toList.all isDecimal = true := by
      decide
    exact fun s hs => ⟨(hall s hs).1, List.all_eq_true.mp (hall s hs).2⟩
  have hmessage : IsMessage "<< hi" :=
    { nonempty := by decide
      line := by decide
      first := by
        intro c hc
        cases hc
        decide
      no_opener := by
        intro word _ hword he
        have hsplit : "<<".toList ++ " hi".toList = "<<".toList ++ word.toList := by
          rw [← String.toList_append, ← String.toList_append, ← he]
          decide
        have hblank : ' ' ∈ word.toList := by
          rw [← List.append_cancel_left hsplit]
          decide
        exact absurd (hword _ hblank) (by decide) }
  have hwritten : List.Forall₂ Directive.Written ds ls :=
    .cons (.reaction true (hnumber "12" (by decide)) (by decide) (by decide) (by decide)
      (by decide)) <|
    .cons (.history (by decide) (by rintro s ⟨⟩; exact hnumber "7" (by decide)) (by decide)) <|
    .cons (.deleteLink (hnumber "1" (by decide)) (hnumber "2" (by decide))
      (hnumber "9" (by decide))) <|
    .cons (.sendToMention (hnumber "7" (by decide)) hmessage) <|
    .cons (.text (by decide) (by decide)) <| .cons .nop .nil
  exact ⟨by decide, hwritten, read_written (by decide) hwritten⟩

end Response

end ChatRelay
