import ChatRelay.Proofs.Commands
import ChatRelay.Proofs.Response

/-!
# Heredocs are delivered as they are written

Whatever a message says, and however many lines it has, the agent can write it as a heredoc, with
a delimiter that is none of its lines. The lines before and behind the heredoc are read as if it
were not there. The message may be for the working channel or for a channel that is named, and a
heredoc for a named channel is never taken for one for the working channel.

The main statement is `Response.heredoc_verbatim`.
-/

namespace ChatRelay

open Reader Text

/-! ## The line that opens a heredoc -/

section Opening

variable {delimiter : String} (hne : delimiter ≠ "")
  (hword : ∀ c ∈ delimiter.toList, isWordChar c = true)

include hne hword in
/-- What opens a heredoc is recognised. -/
theorem Reference.delimiter?_opening : delimiter? ("<<" ++ delimiter) = some delimiter := by
  have hkeyword : keyword? "<<" ("<<" ++ delimiter).toList = some delimiter.toList := by
    rw [String.toList_append]
    rfl
  have hnil : delimiter.toList ≠ [] := fun hnil => hne (String.toList_eq_nil_iff.mp hnil)
  have hrun : run? isWordChar delimiter.toList = some (delimiter.toList, []) := by
    have happend := run?_append hnil hword [] fun c hc => by cases hc
    rwa [List.append_nil] at happend
  simp only [delimiter?, hkeyword, Option.bind_some, hrun, String.ofList_toList]
  rfl

include hword in
/-- What opens a heredoc can stand at the end of a command line. -/
theorem isContent_opening : IsContent ("<<" ++ delimiter) where
  nonempty := by
    intro hempty
    have hlist := congrArg String.toList hempty
    rw [String.toList_append] at hlist
    cases hlist
  line := isLine_append.mpr ⟨by decide, isLine_of_word hword⟩
  first := by
    intro c hc
    rw [String.toList_append] at hc
    cases hc
    decide

variable {ref : String} (href : ref ≠ "") (hblank : ∀ c ∈ ref.toList, isBlank c = false)

include hne hword in
/-- What the line means that opens a heredoc for the working channel. -/
theorem Line.read_send :
    Line.read ("!discord send <<" ++ delimiter) = .ok (.opens ⟨delimiter, .send, none⟩) := by
  have hline : "!discord send <<" ++ delimiter = "!discord send " ++ ("<<" ++ delimiter) := by
    apply String.toList_injective
    simp only [String.toList_append]
    rfl
  simp only [Line.read, hline, Command.ofLine?_send (isContent_opening hword), ofCommand,
    Reference.delimiter?_opening hne hword]

include hne hword href hblank in
/-- What the line means that opens a heredoc for a named channel. -/
theorem Line.read_sendTo :
    Line.read ("!discord sendto " ++ ref ++ " <<" ++ delimiter) =
      .ok (.opens ⟨delimiter, .sendTo, some (Reference.channelText ref)⟩) := by
  have hline : "!discord sendto " ++ ref ++ " <<" ++ delimiter =
      "!discord sendto " ++ ref ++ " " ++ ("<<" ++ delimiter) := by
    apply String.toList_injective
    simp only [String.toList_append, List.append_assoc]
    rfl
  simp only [Line.read, hline,
    Command.ofLine?_sendTo href hblank (isContent_opening hword), ofCommand,
    Reference.delimiter?_opening hne hword]

include hword in
/-- What opens a heredoc for the working channel is one line. -/
theorem isLine_send : IsLine ("!discord send <<" ++ delimiter) :=
  isLine_append.mpr ⟨by decide, isLine_of_word hword⟩

include hword hblank in
/-- What opens a heredoc for a named channel is one line. -/
theorem isLine_sendTo : IsLine ("!discord sendto " ++ ref ++ " <<" ++ delimiter) := by
  simp only [isLine_append]
  exact ⟨⟨⟨by decide, isLine_of_no_blank hblank⟩, by decide⟩, isLine_of_word hword⟩

end Opening

namespace Response

/-- A heredoc as it is written: the line that opens it, the lines of the message, and the
delimiter. -/
def heredocLines (line message delimiter : String) : List String :=
  line :: (splitLines message ++ [delimiter])

section

variable {line message : String} {o : Heredoc.Opener}

/-- A heredoc is made of lines. -/
theorem isLine_heredocLines (message : String) (hline : IsLine line)
    (hopens : Line.read line = .ok (.opens o)) :
    ∀ l ∈ heredocLines line message o.delimiter, IsLine l := by
  intro l hl
  rcases List.mem_cons.mp hl with rfl | hl
  · exact hline
  rcases List.mem_append.mp hl with hl | hl
  · exact isLine_of_mem_splitLines hl
  · rw [List.mem_singleton.mp hl]
    exact (Line.read_opens hopens).isLine

/-- A heredoc gives one directive with its message, and nothing of it is left behind. -/
theorem scan_heredocLines (hopens : Line.read line = .ok (.opens o))
    (hmessage : o.delimiter ∉ splitLines message) :
    scan .closed (heredocLines line message o.delimiter) = .ok [o.directive message] ∧
      Heredoc.closed.after (heredocLines line message o.delimiter) = .closed := by
  have hpass : Heredoc.closed.pass line = { opener := some o, held := [] } := by
    simp only [Heredoc.pass, Heredoc.closed, hopens, Heredoc.start]
  have hgiven : given .closed line = .ok [] := by
    simp only [given, Heredoc.closed, hopens, Except.map]
  obtain ⟨hinside, hheld⟩ := scan_of_open (h := { opener := some o, held := [] }) rfl hmessage
  rw [List.append_nil] at hheld
  obtain ⟨hend, hafter⟩ := scan_delimiter
    (h := { opener := some o, held := (splitLines message).reverse }) rfl
  have hdirective : Heredoc.directive { opener := some o, held := (splitLines message).reverse } =
      o.directive message := by
    rw [directive_of_open rfl, List.reverse_reverse, joinLines_splitLines]
  constructor
  · rw [heredocLines, scan, hgiven, hpass, Except.bind, scan_append, hinside, hheld, Except.bind,
      hend, hdirective]
    rfl
  · have hcons : Heredoc.closed.after (heredocLines line message o.delimiter) =
        (Heredoc.closed.pass line).after (splitLines message ++ [o.delimiter]) := rfl
    rw [hcons, hpass, Heredoc.after_append, hheld, hafter]

/-- Wherever a heredoc stands among lines, it gives one directive with its message. -/
theorem parse_heredoc {ls ls' : List String} (hlines : ∀ l ∈ ls ++ ls', IsLine l)
    (hclosed : (Heredoc.closed.after ls).opener = none) (hline : IsLine line)
    (hopens : Line.read line = .ok (.opens o)) (hmessage : o.delimiter ∉ splitLines message) :
    parse (ls ++ heredocLines line message o.delimiter ++ ls') =
      (parse ls).bind fun ds => (parse ls').map fun ds' => ds ++ [o.directive message] ++ ds' := by
  obtain ⟨hfirst, hsecond⟩ := List.forall_mem_append.mp hlines
  have hheredoc := isLine_heredocLines message hline hopens
  obtain ⟨hscan, hafter⟩ := scan_heredocLines hopens hmessage
  have hparse : parse (heredocLines line message o.delimiter) = .ok [o.directive message] := by
    rw [parse_eq hheredoc, hscan, hafter]
    rfl
  have hbefore : ∀ l ∈ ls ++ heredocLines line message o.delimiter, IsLine l :=
    List.forall_mem_append.mpr ⟨hfirst, hheredoc⟩
  have hclosed' :
      (Heredoc.closed.after (ls ++ heredocLines line message o.delimiter)).opener = none := by
    rw [Heredoc.after_append, Heredoc.after_eq_closed hclosed, hafter]
    rfl
  rw [parse_append (List.forall_mem_append.mpr ⟨hbefore, hsecond⟩) hclosed',
    parse_append hbefore hclosed, hparse]
  cases parse ls with
  | error refusal => rfl
  | ok ds => cases parse ls' <;> rfl

end

/-- **A heredoc delivers its message as it is written**, and changes nothing about the lines
around it. A heredoc for a named channel is delivered to that channel, whose name is not empty:
no line opens a heredoc of that kind that is ended as one for the working channel. -/
theorem heredoc_verbatim {ls ls' : List String} {message delimiter ref : String}
    (hlines : ∀ l ∈ ls ++ ls', IsLine l) (hread : ∀ l ∈ ls ++ ls', Line.Readable l)
    (hclosed : (Heredoc.closed.after ls).opener = none)
    (hne : delimiter ≠ "") (hword : ∀ c ∈ delimiter.toList, isWordChar c = true)
    (hmessage : delimiter ∉ splitLines message)
    (href : ref ≠ "") (hblank : ∀ c ∈ ref.toList, isBlank c = false) :
    (∃ ds ds', parse ls = .ok ds ∧ parse ls' = .ok ds' ∧
      parse (ls ++ heredocLines ("!discord send <<" ++ delimiter) message delimiter ++ ls') =
        .ok (ds ++ [.send message] ++ ds') ∧
      parse (ls ++ heredocLines ("!discord sendto " ++ ref ++ " <<" ++ delimiter) message delimiter
          ++ ls') =
        .ok (ds ++ [.sendTo (Reference.channelText ref) message] ++ ds')) ∧
    Reference.channelText ref ≠ "" ∧
    ∀ lines o, (Heredoc.closed.after lines).opener = some o → o.kind = .sendTo →
      ∃ channel, channel ≠ "" ∧ o.channel = some channel ∧
        ∀ text, o.directive text = .sendTo channel text := by
  obtain ⟨hfirst, hsecond⟩ := List.forall_mem_append.mp hlines
  obtain ⟨hread₁, hread₂⟩ := List.forall_mem_append.mp hread
  obtain ⟨ds, hds⟩ := parse_ok hfirst hread₁
  obtain ⟨ds', hds'⟩ := parse_ok hsecond hread₂
  have hchannel : Reference.channelText ref ≠ "" := Reference.channelText_ne_empty href
  refine ⟨⟨ds, ds', hds, hds', ?_, ?_⟩, hchannel, fun lines o ho hk => ?_⟩
  · have hparse := parse_heredoc hlines hclosed (isLine_send hword)
      (Line.read_send hne hword) hmessage
    rw [hparse, hds, hds']
    rfl
  · have hparse := parse_heredoc hlines hclosed (isLine_sendTo hword hblank)
      (Line.read_sendTo hne hword href hblank) hmessage
    rw [hparse, hds, hds']
    simp only [Heredoc.Opener.directive, hchannel, if_false]
    rfl
  · exact ((Heredoc.closed_sound.after lines).opened o ho).directive hk

/-- A message that looks like a command and like another heredoc, for two channels. -/
theorem heredoc_verbatim_general :
    let message := "!discord nop\n\n!discord send <<EOF"
    (∀ l ∈ ["hi"] ++ ["bye"], IsLine l) ∧ (∀ l ∈ ["hi"] ++ ["bye"], Line.Readable l) ∧
    (Heredoc.closed.after ["hi"]).opener = none ∧ "EOF" ∉ splitLines message ∧
    ∃ ds ds', parse ["hi"] = .ok ds ∧ parse ["bye"] = .ok ds' ∧
      parse (["hi"] ++ heredocLines ("!discord send <<" ++ "EOF") message "EOF" ++ ["bye"]) =
        .ok (ds ++ [.send message] ++ ds') ∧
      parse (["hi"] ++
          heredocLines ("!discord sendto " ++ "#general" ++ " <<" ++ "EOF") message "EOF" ++
          ["bye"]) =
        .ok (ds ++ [.sendTo (Reference.channelText "#general") message] ++ ds') := by
  intro message
  have hlines : ∀ l ∈ ["hi"] ++ ["bye"], IsLine l := by
    unfold IsLine
    decide
  have hcommands : ∀ l ∈ ["hi"] ++ ["bye"], Command.ofLine? l = none := by decide
  have hread : ∀ l ∈ ["hi"] ++ ["bye"], Line.Readable l := by
    intro l hl arguments hc
    rw [hcommands l hl] at hc
    cases hc
  have hclosed : (Heredoc.closed.after ["hi"]).opener = none := by decide
  have hmessage : "EOF" ∉ splitLines message := by decide
  have hword : "EOF".toList.all isWordChar = true := by decide
  have hblank : "#general".toList.any isBlank = false := by decide
  simp only [List.any_eq_false, Bool.not_eq_true] at hblank
  exact ⟨hlines, hread, hclosed, hmessage, (heredoc_verbatim hlines hread hclosed (by decide)
    (List.all_eq_true.mp hword) hmessage (by decide) hblank).1⟩

end Response

end ChatRelay
