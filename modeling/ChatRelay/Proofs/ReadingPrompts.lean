import ChatRelay.Prompt
import ChatRelay.Proofs.Words

/-!
# Reading prompts back

The content of a message stands in its prompt as it is, so it may hold lines that look like the
lines around it. It is still clear which lines are which: the first line of a prompt holds the id of
the message and the last three hold the channel, the attachments and the reactions, and each of
these is one line. What is left between them is the content, however many lines it has.

The main statement is `Prompt.read_prompt`: the prompts of messages are the texts that can be read
in this way, and each is the prompt of one message only.
-/

namespace ChatRelay

open Text Reader

namespace Prompt

/-- What the prompt of a message is made of, the skill of the channel apart. -/
structure Parts where
  messageId : String
  content : String
  channelId : String
  attachments : List String
  deriving DecidableEq, Repr

namespace Parts

/-- The ids are lines, and so are the attachments, which have no space in them either. The content
may be any text. -/
structure Plain (parts : Parts) : Prop where
  messageId : IsLine parts.messageId
  channelId : IsLine parts.channelId
  attachments : ∀ a ∈ parts.attachments, IsLine a ∧ ' ' ∉ a.toList

/-- The prompt for the message with these parts. -/
def prompt (skill : String) (parts : Parts) : String :=
  message parts.messageId skill parts.content parts.channelId parts.attachments

end Parts

/-! ## The reader -/

/-- The attachments that a line lists, each behind a space. -/
def attachments? (line : List Char) : Option (List String) :=
  (keyword? "attachments:" line).bind fun listed =>
    match listed.splitOn ' ' with
    | [] :: names => some (names.map String.ofList)
    | _ => none

/-- The parts that five pieces of a prompt hold. -/
def pieces? (skill : String) (first content channel attachments last : List Char) :
    Option Parts := do
  let messageId ← keyword? "id: " first
  let content ← keyword? (contentLine skill "") content
  let channelId ← keyword? "channel: " channel
  let attachments ← attachments? attachments
  if last = "reactions:".toList then
    some {
      messageId := String.ofList messageId
      content := String.ofList content
      channelId := String.ofList channelId
      attachments }
  else none

/-- The parts of the message that a prompt is about. The lines are counted from both ends. -/
def read (skill prompt : String) : Option Parts :=
  match lines prompt.toList with
  | [] => none
  | first :: rest =>
    match rest.reverse with
    | last :: attachments :: channel :: content =>
      pieces? skill first (unlines content.reverse) channel attachments last
    | _ => none

/-! ## One piece -/

section Pieces

variable {skill : String} {attachments : List String} {line : List Char}

/-- The content stands at the end of its line. -/
theorem contentLine_eq (skill content : String) :
    contentLine skill content = contentLine skill "" ++ content := by
  unfold contentLine
  split <;> simp [toString, String.append_assoc]

/-- Every name of an attachment stands behind a blank. -/
theorem toList_attachmentsLine (attachments : List String) :
    (attachmentsLine attachments).toList =
      "attachments:".toList ++ [' '].intercalate ([] :: attachments.map String.toList) := by
  cases attachments with
  | nil => simp [attachmentsLine]
  | cons name names =>
    simp [attachmentsLine, String.toList_intercalate, List.intercalate_cons_cons]

/-- A line is read as that of attachments just where it is their line, and no name has a blank in
it. -/
theorem attachments?_eq_some_iff : attachments? line = some attachments ↔
    (∀ a ∈ attachments, ' ' ∉ a.toList) ∧ line = (attachmentsLine attachments).toList := by
  rw [toList_attachmentsLine]
  constructor
  · intro h
    obtain ⟨listed, hkeyword, h⟩ := Option.bind_eq_some_iff.mp h
    have hjoined : [' '].intercalate (listed.splitOn ' ') = listed := List.intercalate_splitOn ' '
    split at h
    · rename_i names hsplit
      cases h
      rw [hsplit] at hjoined
      refine ⟨List.forall_mem_map.mpr fun name hname => ?_, ?_⟩
      · have hmem : name ∈ listed.splitOn ' ' := hsplit ▸ List.mem_cons_of_mem [] hname
        rw [String.toList_ofList]
        exact not_mem_of_mem_splitOn hmem
      · rw [map_toList_ofList, hjoined]
        exact keyword?_split hkeyword
    · cases h
  · rintro ⟨hspaces, rfl⟩
    have hpieces : ∀ piece ∈ [] :: attachments.map String.toList, ' ' ∉ piece :=
      List.forall_mem_cons.mpr ⟨List.not_mem_nil, List.forall_mem_map.mpr hspaces⟩
    have hsplit := List.splitOn_intercalate ' ' hpieces (List.cons_ne_nil _ _)
    rw [attachments?, keyword?_append, Option.bind_some, hsplit]
    exact congrArg some (map_ofList_toList attachments)

/-- The pieces are those of the message that they are read as. -/
theorem pieces?_eq_some_iff {first content channel names last : List Char} {parts : Parts} :
    pieces? skill first content channel names last = some parts ↔
      (∀ a ∈ parts.attachments, ' ' ∉ a.toList) ∧
      first = "id: ".toList ++ parts.messageId.toList ∧
      content = (contentLine skill parts.content).toList ∧
      channel = "channel: ".toList ++ parts.channelId.toList ∧
      names = (attachmentsLine parts.attachments).toList ∧ last = "reactions:".toList := by
  rw [contentLine_eq, String.toList_append]
  constructor
  · intro h
    obtain ⟨messageId, hfirst, h⟩ := Option.bind_eq_some_iff.mp h
    obtain ⟨written, hcontent, h⟩ := Option.bind_eq_some_iff.mp h
    obtain ⟨channelId, hchannel, h⟩ := Option.bind_eq_some_iff.mp h
    obtain ⟨attachments, hnames, h⟩ := Option.bind_eq_some_iff.mp h
    obtain ⟨hspaces, hnames⟩ := attachments?_eq_some_iff.mp hnames
    split at h
    · cases h
      simp only [String.toList_ofList]
      exact ⟨hspaces, keyword?_split hfirst, keyword?_split hcontent, keyword?_split hchannel,
        hnames, ‹_›⟩
    · cases h
  · rintro ⟨hspaces, rfl, rfl, rfl, hnames, rfl⟩
    have hattachments := attachments?_eq_some_iff.mpr ⟨hspaces, hnames⟩
    simp only [pieces?, keyword?_append, hattachments, Option.bind_eq_bind, Option.bind_some,
      if_true, String.ofList_toList]

end Pieces

/-! ## The whole prompt -/

section Prompts

variable {skill : String} {parts parts' : Parts}

/-- The attachments take one line where each of their names does. -/
theorem isLine_attachmentsLine {attachments : List String} :
    IsLine (attachmentsLine attachments) ↔ ∀ a ∈ attachments, IsLine a := by
  rw [IsLine, toList_attachmentsLine, List.mem_append, not_or]
  constructor
  · rintro ⟨-, hnames⟩ a ha hnewline
    have hmem : a.toList ∈ [] :: attachments.map String.toList :=
      List.mem_cons_of_mem [] (List.mem_map_of_mem ha)
    exact hnames (mem_intercalate hmem hnewline)
  · intro h
    have hpieces : ∀ piece ∈ [] :: attachments.map String.toList, '\n' ∉ piece :=
      List.forall_mem_cons.mpr ⟨List.not_mem_nil, List.forall_mem_map.mpr h⟩
    exact ⟨by decide, not_mem_intercalate (by decide) hpieces⟩

/-- A prompt has its five pieces on lines of their own. -/
theorem toList_prompt (skill : String) (parts : Parts) : (parts.prompt skill).toList = unlines [
    "id: ".toList ++ parts.messageId.toList, (contentLine skill parts.content).toList,
    "channel: ".toList ++ parts.channelId.toList, (attachmentsLine parts.attachments).toList,
    "reactions:".toList] := by
  rw [Parts.prompt, message, toList_joinLines]
  simp [toString]

/-- The lines of a prompt, with those of the content between the others. -/
theorem lines_prompt (h : parts.Plain) :
    lines (parts.prompt skill).toList = ("id: ".toList ++ parts.messageId.toList) ::
      (lines (contentLine skill parts.content).toList ++
        ["channel: ".toList ++ parts.channelId.toList, (attachmentsLine parts.attachments).toList,
          "reactions:".toList]) := by
  have hlabelled : ∀ (label : String) {id : String}, IsLine label → IsLine id →
      lines (label.toList ++ id.toList) = [label.toList ++ id.toList] := by
    intro label id hlabel hid
    refine lines_of_not_mem ?_
    rw [List.mem_append]
    exact not_or.mpr ⟨hlabel, hid⟩
  have hattachments : IsLine (attachmentsLine parts.attachments) :=
    isLine_attachmentsLine.mpr fun a ha => (h.attachments a ha).1
  have hreactions : lines "reactions:".toList = ["reactions:".toList] := by decide
  rw [toList_prompt, lines_unlines (List.cons_ne_nil _ _)]
  simp only [List.flatMap_cons, List.flatMap_nil, hlabelled "id: " (by decide) h.messageId,
    hlabelled "channel: " (by decide) h.channelId, lines_of_not_mem hattachments, hreactions,
    List.append_nil, List.singleton_append]

/-- A text with the lines of a prompt is the prompt, and no part runs into another line. -/
theorem eq_prompt_of_lines {cs : List Char} {content : List (List Char)}
    (hlines : lines cs = ("id: ".toList ++ parts.messageId.toList) ::
      (content ++ ["channel: ".toList ++ parts.channelId.toList,
        (attachmentsLine parts.attachments).toList, "reactions:".toList]))
    (hcontent : (contentLine skill parts.content).toList = unlines content)
    (hspaces : ∀ a ∈ parts.attachments, ' ' ∉ a.toList) :
    parts.Plain ∧ cs = (parts.prompt skill).toList := by
  have hnewline : ∀ line ∈ lines cs, '\n' ∉ line := fun line => newline_not_mem_of_mem_lines
  rw [hlines] at hnewline
  have hplain : parts.Plain := by
    refine ⟨fun hmem => ?_, fun hmem => ?_, fun a ha => ⟨?_, hspaces a ha⟩⟩
    · exact hnewline _ List.mem_cons_self (List.mem_append_right _ hmem)
    · exact hnewline ("channel: ".toList ++ parts.channelId.toList) (by simp)
        (List.mem_append_right _ hmem)
    · have hattachments : IsLine (attachmentsLine parts.attachments) := hnewline _ (by simp)
      exact isLine_attachmentsLine.mp hattachments a ha
  have hne : content ≠ [] := by
    -- The label of the content alone is not empty.
    rintro rfl
    have hempty : (contentLine skill parts.content).toList = [] := hcontent
    unfold contentLine at hempty
    split at hempty <;> simp [toString] at hempty
  have hread : lines (contentLine skill parts.content).toList = content := by
    rw [hcontent, lines_eq_splitOn]
    refine List.splitOn_intercalate '\n' (fun line hline => hnewline line ?_) hne
    exact List.mem_cons_of_mem _ (List.mem_append_left _ hline)
  refine ⟨hplain, ?_⟩
  rw [← unlines_lines cs, ← unlines_lines (parts.prompt skill).toList, lines_prompt hplain, hlines,
    hread]

/-- **The prompts of messages are the texts that are read.** -/
theorem read_eq_some_iff {prompt : String} :
    read skill prompt = some parts ↔ parts.Plain ∧ prompt = parts.prompt skill := by
  constructor
  · intro h
    unfold read at h
    split at h
    · cases h
    · rename_i first rest hlines
      split at h
      · rename_i last names channel content hrest
        obtain ⟨hspaces, rfl, hcontent, rfl, rfl, rfl⟩ := pieces?_eq_some_iff.mp h
        have hrest : rest = content.reverse ++ ["channel: ".toList ++ parts.channelId.toList,
            (attachmentsLine parts.attachments).toList, "reactions:".toList] := by
          rw [List.reverse_eq_iff.mp hrest]
          simp
        rw [hrest] at hlines
        obtain ⟨hplain, hprompt⟩ := eq_prompt_of_lines hlines hcontent.symm hspaces
        exact ⟨hplain, String.toList_injective hprompt⟩
      · cases h
  · rintro ⟨hplain, rfl⟩
    have hreverse : ∀ (content : List (List Char)) (channel names last : List Char),
        (content ++ [channel, names, last]).reverse =
          last :: names :: channel :: content.reverse := by
      simp
    rw [read, lines_prompt hplain]
    dsimp only
    rw [hreverse]
    dsimp only
    rw [List.reverse_reverse, unlines_lines]
    exact pieces?_eq_some_iff.mpr
      ⟨fun a ha => (hplain.attachments a ha).2, rfl, rfl, rfl, rfl, rfl⟩

end Prompts

/-- **The prompt of a message determines the message.** Whatever the content is, the four parts are
read back from the prompt, so messages with the same prompt are the same. A text that is no prompt
of such a message is not read. -/
theorem read_prompt {skill : String} {parts : Parts} (h : parts.Plain) :
    read skill (parts.prompt skill) = some parts ∧
    (∀ parts' : Parts, parts'.Plain → parts'.prompt skill = parts.prompt skill → parts' = parts) ∧
    ∀ prompt parts', read skill prompt = some parts' →
      parts'.Plain ∧ prompt = parts'.prompt skill := by
  have hread : ∀ {parts : Parts}, parts.Plain → read skill (parts.prompt skill) = some parts :=
    fun hplain => read_eq_some_iff.mpr ⟨hplain, rfl⟩
  refine ⟨hread h, fun parts' h' hsame => ?_, fun prompt parts' => read_eq_some_iff.mp⟩
  have hread' := hread h'
  rw [hsame, hread h] at hread'
  exact (Option.some.inj hread').symm

/-- The content imitates the lines behind it. -/
theorem read_prompt_imitated :
    let parts : Parts := {
      messageId := "1"
      content := "hi\nchannel: 9\nattachments: x.png\nreactions:"
      channelId := "7"
      attachments := [".tmp/a.png", ".tmp/b.txt"] }
    parts.Plain ∧
      read "diary" ("id: 1\ncontent: /diary hi\nchannel: 9\nattachments: x.png\nreactions:\n" ++
        "channel: 7\nattachments: .tmp/a.png .tmp/b.txt\nreactions:") = some parts := by
  intro parts
  have hplain : parts.Plain := ⟨by decide, by decide, by decide⟩
  exact ⟨hplain, (read_prompt hplain).1⟩

end Prompt

end ChatRelay
