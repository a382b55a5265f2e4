import ChatRelay.Proofs.Legible
import ChatRelay.Proofs.Places

/-!
# The relay deletes only its own messages

A directive to delete a message comes from a line that says so, and never from the lines of a
heredoc, which are a message whatever they look like (`Response.line_of_directive`). The message is
deleted only when it was just fetched from the same channel and the relay turned out to be its
author.

The main statement is `Situation.deletes_own`.
-/

namespace ChatRelay

open Dialogue (Event)
open Reader Text

/-! ## Lines that delete -/

/-- A message is named by its number, or by a link that ends with it. -/
inductive NamesMessage (id : String) : String → Prop where
  | number : NamesMessage id id
  | link {guild channel : String} (guildId : IsNumber guild) (channelId : IsNumber channel) :
      NamesMessage id ("https://discord.com/channels/" ++ guild ++ "/" ++ channel ++ "/" ++ id)

/-- One or more blanks. -/
structure IsGap (s : String) : Prop where
  nonempty : s ≠ ""
  blank : allBlank s = true

/-- A line that says to delete a message: the command, and how the message is named. -/
structure Line.Deletes (line id : String) : Prop where
  number : IsNumber id
  written : ∃ gap gap' ref, IsGap gap ∧ IsGap gap' ∧ NamesMessage id ref ∧
    line = "!discord" ++ gap ++ "delete" ++ gap' ++ ref

namespace Reader

variable {cs rest : List Char}

/-- What the blanks leave stands behind a gap. -/
theorem blanks?_split (h : blanks? cs = some rest) :
    ∃ gap, IsGap gap ∧ cs = gap.toList ++ rest := by
  rw [blanks?_eq_run?] at h
  obtain ⟨⟨run, _⟩, hrun, rfl⟩ := Option.map_eq_some_iff.mp h
  obtain ⟨hne, hblank⟩ := run?_sound hrun
  refine ⟨String.ofList run, ⟨fun hempty => hne (String.ofList_eq_empty_iff.mp hempty), ?_⟩, ?_⟩
  · rw [allBlank, String.toList_ofList]
    exact List.all_eq_true.mpr hblank
  · rw [String.toList_ofList, run?_split hrun]

/-- What a verb leaves stands behind `!discord`, a gap and the verb. -/
theorem verb?_split {verb : String} (h : verb? verb cs = some rest) :
    ∃ gap, IsGap gap ∧ cs = "!discord".toList ++ (gap.toList ++ (verb.toList ++ rest)) := by
  obtain ⟨afterPrefix, hprefix, h⟩ := Option.bind_eq_some_iff.mp h
  obtain ⟨afterGap, hgap, hverb⟩ := Option.bind_eq_some_iff.mp h
  obtain ⟨gap, hblank, hsplit⟩ := blanks?_split hgap
  refine ⟨gap, hblank, ?_⟩
  rw [keyword?_split hprefix, hsplit, keyword?_split hverb]

end Reader

namespace Command

/-- A message is read where it is named. -/
theorem names_of_read {cs digits : List Char} (hline : '\n' ∉ cs)
    (h : (linkedMessage? cs).or (lastDigits? cs) = some digits) :
    IsNumber (String.ofList digits) ∧ NamesMessage (String.ofList digits) (String.ofList cs) := by
  cases hlink : linkedMessage? cs with
  | none =>
    rw [hlink, Option.none_or] at h
    obtain ⟨hnumber, rfl⟩ := lastDigits?_split hline h
    exact ⟨hnumber, .number⟩
  | some digits' =>
    rw [hlink, Option.some_or] at h
    cases h
    obtain ⟨rest, hsite, hlink⟩ := Option.bind_eq_some_iff.mp hlink
    obtain ⟨guild, hguild, hlink⟩ := Option.bind_eq_some_iff.mp hlink
    obtain ⟨rest', hslash, hlink⟩ := Option.bind_eq_some_iff.mp hlink
    obtain ⟨channel, hchannel, hlink⟩ := Option.bind_eq_some_iff.mp hlink
    obtain ⟨rest'', hslash', hlast⟩ := Option.bind_eq_some_iff.mp hlink
    obtain ⟨hguildId, hrest⟩ := digits?_split hguild
    obtain ⟨hchannelId, hrest'⟩ := digits?_split hchannel
    have hcs : cs = "https://discord.com/channels/".toList ++ (guild.1 ++ ("/".toList ++
        (channel.1 ++ ("/".toList ++ rest'')))) := by
      rw [keyword?_split hsite, hrest, keyword?_split hslash, hrest', keyword?_split hslash']
    have hline' : '\n' ∉ rest'' := by
      intro hmem
      rw [hcs] at hline
      simp only [List.mem_append, not_or] at hline
      exact hline.2.2.2.2.2 hmem
    obtain ⟨hnumber, rfl⟩ := lastDigits?_split hline' hlast
    refine ⟨hnumber, ?_⟩
    rw [hcs]
    simp only [String.ofList_append, String.ofList_toList, ← String.append_assoc]
    exact .link hguildId hchannelId

end Command

/-- Only a line that says so deletes a message. -/
theorem Line.deletes_of_read {line id : String} (hline : IsLine line)
    (h : Line.read line = .ok (.directive (.delete id))) : Line.Deletes line id := by
  have hcommand : Command.ofLine? line = some (.delete id) := by
    rcases Line.read_eq_ok_iff.mp h with ⟨-, htext⟩ | ⟨command, hcommand, hmeans⟩
    · cases htext
    · cases hmeans
      exact hcommand
  obtain ⟨rest, hverb, h⟩ := Option.bind_eq_some_iff.mp (Command.recogniser_of_ofLine? hcommand)
  obtain ⟨ref, hblanks, h⟩ := Option.bind_eq_some_iff.mp h
  obtain ⟨digits, hread, hid⟩ := Option.map_eq_some_iff.mp h
  cases hid
  obtain ⟨gap, hgap, hsplit⟩ := verb?_split hverb
  obtain ⟨gap', hgap', hsplit'⟩ := blanks?_split hblanks
  rw [hsplit'] at hsplit
  have hline' : '\n' ∉ ref := by
    intro hmem
    refine hline ?_
    rw [hsplit]
    simp [hmem]
  obtain ⟨hnumber, hnames⟩ := Command.names_of_read hline' hread
  refine ⟨hnumber, gap, gap', String.ofList ref, hgap, hgap', hnames, ?_⟩
  have htext := congrArg String.ofList hsplit
  simpa only [String.ofList_append, String.ofList_toList, ← String.append_assoc] using htext

/-! ## Directives of lines -/

namespace Response

/-- A message that a text deletes is named by a line of it that says so, outside all heredocs. -/
theorem line_of_delete {text id : String} {ds : List Directive}
    (hread : (read text).directives = .ok ds) (hd : .delete id ∈ ds) :
    ∃ before line after, splitLines text = before ++ line :: after ∧
      (Heredoc.closed.after before).opener = none ∧ Line.Deletes line id := by
  obtain ⟨before, line, after, hsplit, hclosed, hline⟩ :=
    line_of_directive hread hd (directive_ne (fun _ => nofun) fun _ _ => nofun)
  refine ⟨before, line, after, hsplit, hclosed, Line.deletes_of_read ?_ hline⟩
  exact isLine_of_mem_splitLines (hsplit ▸ List.mem_append_right _ List.mem_cons_self)

end Response

/-! ## Every run -/

namespace Situation

variable {config : Config} {systemPrompt : Option String} {sessions : SessionTable}
  {ms : List Move} {i : Nat} {c : String} {before after : List Deed}

/-- **The relay deletes only its own messages.** In every run, a worker that deletes a message has
just fetched that message from that channel and asked who the relay is, and the author of what was
fetched is the relay. The channel is the one that the worker's unit of work came from, and a line of
the text that the worker is at says to delete the message, outside all heredocs. -/
theorem deletes_own {channel id : String}
    (h : ((start config systemPrompt sessions).run ms).deedsOf i c =
      before ++ .asked (.chat (.delete channel id)) :: after) :
    (∃ earlier message own, before.filterMap Deed.chatCall? =
        earlier ++ [.asked (.fetch channel id) (.ok message), .asked .ownUserId (.ok own)] ∧
      message.authorId = own) ∧
    (∃ work, (Doing.of before).work = some work ∧ work.item.channelId = channel ∧ channel = c) ∧
    ∃ e lines line lines', (Doing.of before).stage = .heeding e ∧ e.kind = .text ∧
      splitLines e.text = lines ++ line :: lines' ∧
      (Heredoc.closed.after lines).opener = none ∧ Line.Deletes line id := by
  obtain ⟨work, errand, since, hadmitted, hon, hasks⟩ := errand_of_call h
  cases hasks with
  | delete message own isOwn =>
    cases hon with
    | @directives e ds _ earlier _ at_work heard kind read stands talk =>
      refine ⟨?_, ⟨work, at_work, rfl, hadmitted.channel⟩, ?_⟩
      · obtain ⟨before', hsuffix⟩ := Doing.talk_suffix before
        refine ⟨before' ++ earlier, message, own, ?_, isOwn⟩
        rw [← hsuffix, talk, List.append_assoc]
      · cases stands with
        | directive split carried =>
          have hd : .delete id ∈ ds := split ▸ List.mem_append_right _ List.mem_cons_self
          obtain ⟨lines, line, lines', hlines, hclosed, hdeletes⟩ :=
            Response.line_of_delete read hd
          exact ⟨e, lines, line, lines', heard, kind, hlines, hclosed, hdeletes⟩

/-- A message that the relay wrote is deleted behind a line of text. -/
theorem deletes_own_in_deletingRun : ∃ before after,
    deletingRun.deedsOf 1 "100" = before ++ .asked (.chat (.delete "100" "55")) :: after ∧
      ∃ earlier message own, before.filterMap Deed.chatCall? =
          earlier ++ [.asked (.fetch "100" "55") (.ok message), .asked .ownUserId (.ok own)] ∧
        message.authorId = own := by
  obtain ⟨before, after, hdeeds⟩ : ∃ before after, deletingRun.deedsOf 1 "100" =
      before ++ .asked (.chat (.delete "100" "55")) :: after :=
    ⟨[.took _, .said _, .asked _, .heard (.agent (.start _)) (.ok ()), .asked _,
      .heard (.agent .next) (.ok (some _)), .said _, .said _, .asked _,
      .heard (.chat (.send _ _ _)) (.ok _), .asked _, .heard (.chat (.fetch _ _)) (.ok _),
      .asked _, .heard (.chat .ownUserId) (.ok _)], [], rfl⟩
  exact ⟨before, after, hdeeds, (deletes_own hdeeds).1⟩

end Situation

end ChatRelay
