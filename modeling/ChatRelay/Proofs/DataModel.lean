import ChatRelay.Proofs.Writing
import Mathlib.Data.List.DropRight

/-!
# Directives are within the data model

What the parser makes of a text can be used without further checks: messages are named by digits,
a history request is within its bounds, channels to send to are names, and all texts of a directive
but its message stand on one line (`Directive.InModel`). Each recogniser gives this for its own
parts (`Command.sound_of_ofLine?`), the meaning of a command keeps it (`Line.inModel_of_read`), and
a heredoc carries the name of its channel to its end (`Heredoc.NamesChannel`).

The main statement is `Response.directives_inModel`.
-/

namespace ChatRelay

open Reader Text

/-! ## The data model -/

/-- A text that no blank starts or ends. -/
structure IsTrimmed (s : String) : Prop where
  first : ∀ c, s.toList.head? = some c → isBlank c = false
  last : ∀ c, s.toList.getLast? = some c → isBlank c = false

/-- A request for messages within its bounds, and for a channel that is named by its number. -/
structure HistoryRequest.Sound (request : HistoryRequest) : Prop where
  count_nonneg : 0 ≤ request.count
  count_le : request.count ≤ 100
  offset_nonneg : 0 ≤ request.offset
  channel : ∀ id, request.channel = some id → IsNumber id

namespace Directive

/-- The fields of a directive are as its kind asks for. -/
def FieldsSound : Directive → Prop
  | .text _ | .send _ | .nop => True
  | .media path => IsTrimmed path
  | .reactions emojis => ∀ emoji ∈ emojis, ∃ c ∈ emoji.toList, isBlank c = false
  | .reaction messageId emoji _ => IsNumber messageId ∧ IsTrimmed emoji
  | .history request => request.Sound
  | .delete messageId | .exec messageId => IsNumber messageId
  | .sendTo channel _ => IsChannelName channel

/-- The texts of a directive, but for the message of one that sends. -/
def oneLiners : Directive → List String
  | .text content => [content]
  | .media path => [path]
  | .reactions emojis => emojis
  | .reaction messageId emoji _ => [messageId, emoji]
  | .history request => request.channel.toList
  | .delete messageId | .exec messageId => [messageId]
  | .sendTo channel _ => [channel]
  | .send _ | .nop => []

/-- A directive within the data model. -/
structure InModel (d : Directive) : Prop where
  fields : d.FieldsSound
  lines : ∀ s ∈ d.oneLiners, IsLine s

end Directive

/-- A heredoc for a channel names it. -/
def Heredoc.Opener.NamesChannel (o : Heredoc.Opener) : Prop :=
  ∀ channel, o.channel = some channel → IsChannelName channel

/-- A meaning within the data model. -/
def Line.InModel : Line → Prop
  | .directive d => d.InModel
  | .opens o => o.NamesChannel

/-! ## Pieces -/

/-- A name of a channel is a line. -/
theorem IsChannelName.isLine {s : String} (h : IsChannelName s) : IsLine s :=
  isLine_of_no_blank h.no_blank

/-- An argument ends where the line does. -/
theorem Reader.isLine_of_argument? {cs argument : List Char} (h : argument? cs = some argument) :
    IsLine (String.ofList argument) := by
  rw [IsLine, String.toList_ofList]
  unfold argument? at h
  split at h
  · cases h
  · unfold blankArgument? at h
    dsimp only at h
    generalize (if cs.getLast? = some '\n' then cs.dropLast else cs) = body at h
    split at h
    · cases h
    · obtain ⟨c, -, h⟩ := Option.bind_eq_some_iff.mp h
      split at h
      · cases h
      · rename_i hnewline
        cases h
        exact fun hmem => hnewline (List.mem_singleton.mp hmem).symm
  · unfold lineRest? at h
    split at h
    · cases h
      exact fun hmem => absurd (List.all_eq_true.mp List.all_takeWhile _ hmem) (by decide)
    · cases h

/-- Trimming adds no character. -/
theorem Text.trim_sublist (cs : List Char) : (trim cs).Sublist cs :=
  (List.rdropWhile_prefix isBlank _).sublist.trans (List.dropWhile_sublist _)

namespace Line

/-- Trimming leaves no blanks at the ends. -/
theorem isTrimmed_trimmed (s : String) : IsTrimmed (trimmed s) where
  first := by
    intro c hc
    rw [trimmed, String.toList_ofList] at hc
    obtain ⟨rest, hrest⟩ : trim s.toList <+: trimStart s.toList :=
      List.rdropWhile_prefix isBlank (trimStart s.toList)
    have hfirst : (s.toList.dropWhile isBlank).head? = some c := by
      rw [← trimStart, ← hrest, List.head?_append, hc, Option.some_or]
    have hnot := List.head?_dropWhile_not isBlank s.toList
    rwa [hfirst] at hnot
  last := by
    intro c hc
    rw [trimmed, String.toList_ofList, trim, trimEnd, List.getLast?_reverse] at hc
    have hnot := List.head?_dropWhile_not isBlank (trimStart s.toList).reverse
    rwa [hc] at hnot

/-- Trimming keeps a line. -/
theorem isLine_trimmed {s : String} (h : IsLine s) : IsLine (trimmed s) := by
  rw [IsLine, trimmed, String.toList_ofList]
  exact fun hmem => h ((trim_sublist _).mem hmem)

end Line

/-- A reference that has no blanks names a channel. -/
theorem Reference.isChannelName_channelText {ref : String} (h : IsChannelName ref) :
    IsChannelName (channelText ref) := by
  have hnonempty := channelText_ne_empty h.nonempty
  refine ⟨hnonempty, ?_⟩
  rw [channelText, String.toList_ofList, channel]
  cases hmention : mention? ref.toList with
  | some digits => exact fun c hc => isBlank_of_isDecimal ((mention?_sound hmention).2 c hc)
  | none =>
    cases hname : hashName? ref.toList with
    | some name => exact fun c hc => (Bool.not_eq_true' _).mp ((hashName?_sound hname).2 c hc)
    | none => exact h.no_blank

namespace Emoji

/-- Every emoji of a text is visible and stands in the text. -/
theorem mem_splitText {s emoji : String} (h : emoji ∈ splitText s) :
    (∃ c ∈ emoji.toList, isBlank c = false) ∧ ∀ c ∈ emoji.toList, c ∈ s.toList := by
  obtain ⟨cluster, hcluster, rfl⟩ := List.mem_map.mp h
  obtain ⟨hmem, hvisible⟩ := List.mem_filter.mp hcluster
  rw [String.toList_ofList]
  constructor
  · simpa [isVisible] using hvisible
  · intro c hc
    rw [← Cluster.flatten_clusters s.toList]
    exact List.mem_flatten_of_mem hmem hc

end Emoji

/-! ## History requests -/

namespace HistoryRequest.Sound

variable {request request' : HistoryRequest}

/-- A request stays within its bounds when an argument is applied: the number of messages is cut at
the most messages that can be asked for. -/
theorem apply (h : request.Sound) {word : List Char} {argument : HistoryArguments.Argument}
    (hword : HistoryArguments.Argument.of? word = some argument)
    (happly : argument.apply request = .ok request') : request'.Sound := by
  cases argument with
  | channel digits =>
    have hmention : Reference.mention? word = some digits := by
      simp only [HistoryArguments.Argument.of?, Option.or_eq_some_iff, Option.map_eq_some_iff,
        HistoryArguments.Argument.channel.injEq, exists_eq_right, reduceCtorEq, and_false,
        exists_false, or_false, false_or] at hword
      exact hword.2
    cases happly
    refine { h with channel := ?_ }
    rintro _ ⟨⟩
    exact isNumber_ofList_iff.mpr (Reference.mention?_sound hmention)
  | offset digits =>
    cases hn : Numeral.ofDigits digits with
    | error refusal =>
      rw [HistoryArguments.Argument.apply, hn] at happly
      cases happly
    | ok n =>
      rw [HistoryArguments.Argument.apply, hn] at happly
      cases happly
      exact { h with offset_nonneg := Int.natCast_nonneg n }
  | count digits =>
    cases hn : Numeral.ofDigits digits with
    | error refusal =>
      rw [HistoryArguments.Argument.apply, hn] at happly
      cases happly
    | ok n =>
      rw [HistoryArguments.Argument.apply, hn] at happly
      cases happly
      have hcut : min n HistoryArguments.maxCount ≤ 100 := min_le_right _ _
      exact { h with count_nonneg := Int.natCast_nonneg _, count_le := Int.ofNat_le.mpr hcut }

/-- A request stays within its bounds when words are read. -/
theorem readWords {ws : List (List Char)} (h : request.Sound)
    (hread : HistoryArguments.readWords request ws = .ok request') : request'.Sound := by
  induction ws generalizing request with
  | nil =>
    cases hread
    exact h
  | cons word rest ih =>
    unfold HistoryArguments.readWords at hread
    cases hword : HistoryArguments.Argument.of? word with
    | none =>
      rw [hword] at hread
      exact ih h hread
    | some argument =>
      simp only [hword] at hread
      cases happly : argument.apply request with
      | error refusal =>
        rw [happly] at hread
        cases hread
      | ok next =>
        rw [happly] at hread
        exact ih (h.apply hword happly) hread

end HistoryRequest.Sound

/-- What a history command asks for is within its bounds. -/
theorem HistoryArguments.sound_of_read {arguments : String} {request : HistoryRequest}
    (h : read arguments = .ok request) : request.Sound := by
  have hfirst : HistoryRequest.Sound {} := by
    refine ⟨by decide, by decide, by decide, ?_⟩
    rintro _ ⟨⟩
  exact hfirst.readWords h

/-! ## Commands -/

namespace Command

/-- The parts of a command are as its kind asks for. -/
def Sound : Command → Prop
  | .nop | .history _ | .send _ => True
  | .reaction messageId _ emoji => IsNumber messageId ∧ IsLine emoji
  | .delete messageId | .exec messageId => IsNumber messageId
  | .sendTo channel _ => IsChannelName channel
  | .media path => IsLine path
  | .reactions emojis => IsLine emojis

/-- An emoji stands at the end of its argument. -/
theorem splitMinus_suffix (argument : List Char) : (splitMinus argument).2 <:+ argument := by
  unfold splitMinus
  split
  · exact List.suffix_cons _ _
  · exact List.suffix_rfl

/-- The message of a reaction is named by its number, and the emoji is on the line. -/
theorem sound_of_reaction? {cs : List Char} {messageId emoji : String} {remove : Bool}
    (h : reaction? cs = some (.reaction messageId remove emoji)) :
    IsNumber messageId ∧ IsLine emoji := by
  obtain ⟨_, -, h⟩ := Option.bind_eq_some_iff.mp h
  obtain ⟨_, -, h⟩ := Option.bind_eq_some_iff.mp h
  obtain ⟨digits, hdigits, h⟩ := Option.bind_eq_some_iff.mp h
  obtain ⟨argument, hargument, h⟩ := Option.map_eq_some_iff.mp h
  cases h
  refine ⟨(digits?_split hdigits).1, fun hmem => isLine_of_argument? hargument ?_⟩
  rw [String.toList_ofList] at hmem ⊢
  exact (splitMinus_suffix argument).mem hmem

/-- A link to a message names it by its number. -/
theorem isNumber_of_linkedMessage? {cs digits : List Char} (h : linkedMessage? cs = some digits) :
    IsNumber (String.ofList digits) := by
  obtain ⟨_, -, h⟩ := Option.bind_eq_some_iff.mp h
  obtain ⟨_, -, h⟩ := Option.bind_eq_some_iff.mp h
  obtain ⟨_, -, h⟩ := Option.bind_eq_some_iff.mp h
  obtain ⟨_, -, h⟩ := Option.bind_eq_some_iff.mp h
  obtain ⟨_, -, hlast⟩ := Option.bind_eq_some_iff.mp h
  exact isNumber_of_lastDigits? hlast

/-- The message to be deleted is named by its number, be it in a link or by itself. -/
theorem isNumber_of_delete? {cs : List Char} {messageId : String}
    (h : delete? cs = some (.delete messageId)) : IsNumber messageId := by
  obtain ⟨_, -, h⟩ := Option.bind_eq_some_iff.mp h
  obtain ⟨rest, -, h⟩ := Option.bind_eq_some_iff.mp h
  obtain ⟨digits, hdigits, h⟩ := Option.map_eq_some_iff.mp h
  cases h
  rcases Option.or_eq_some_iff.mp hdigits with hlink | ⟨-, hlast⟩
  · exact isNumber_of_linkedMessage? hlink
  · exact isNumber_of_lastDigits? hlast

/-- The channel of a command to send to one is a word. -/
theorem isChannelName_of_sendTo? {cs : List Char} {channel content : String}
    (h : sendTo? cs = some (.sendTo channel content)) : IsChannelName channel := by
  obtain ⟨_, -, h⟩ := Option.bind_eq_some_iff.mp h
  obtain ⟨_, -, h⟩ := Option.bind_eq_some_iff.mp h
  obtain ⟨word, hword, h⟩ := Option.bind_eq_some_iff.mp h
  obtain ⟨_, -, h⟩ := Option.map_eq_some_iff.mp h
  cases h
  obtain ⟨hne, hblank⟩ := run?_sound hword
  refine ⟨fun hempty => hne (String.ofList_eq_empty_iff.mp hempty), fun c hc => ?_⟩
  rw [String.toList_ofList] at hc
  exact (Bool.not_eq_true' _).mp (hblank c hc)

/-- The parts of a command that is recognised are as its kind asks for. -/
theorem sound_of_ofLine? {line : String} {command : Command} (h : ofLine? line = some command) :
    command.Sound := by
  have hread := recogniser_of_ofLine? h
  cases command with
  | nop | history _ | send _ => trivial
  | reaction messageId remove emoji => exact sound_of_reaction? hread
  | delete messageId => exact isNumber_of_delete? hread
  | exec messageId =>
    obtain ⟨_, -, hread⟩ := Option.bind_eq_some_iff.mp hread
    obtain ⟨_, -, hread⟩ := Option.bind_eq_some_iff.mp hread
    obtain ⟨digits, hdigits, hread⟩ := Option.map_eq_some_iff.mp hread
    cases hread
    exact isNumber_of_lastDigits? hdigits
  | sendTo channel content => exact isChannelName_of_sendTo? hread
  | media path =>
    obtain ⟨_, -, hread⟩ := Option.bind_eq_some_iff.mp hread
    obtain ⟨argument, hargument, hread⟩ := Option.map_eq_some_iff.mp hread
    cases hread
    exact isLine_of_argument? hargument
  | reactions emojis =>
    obtain ⟨_, -, hread⟩ := Option.bind_eq_some_iff.mp hread
    obtain ⟨argument, hargument, hread⟩ := Option.map_eq_some_iff.mp hread
    cases hread
    exact isLine_of_argument? hargument

end Command

/-! ## Lines -/

/-- The meaning of a line is within the data model. -/
theorem Line.inModel_of_read {line : String} (hline : IsLine line) {meaning : Line}
    (h : read line = .ok meaning) : meaning.InModel := by
  rcases read_eq_ok_iff.mp h with ⟨-, rfl⟩ | ⟨command, hcommand, hmeans⟩
  · exact ⟨trivial, List.forall_mem_singleton.mpr hline⟩
  · have hsound := Command.sound_of_ofLine? hcommand
    cases hmeans with
    | nop | send message => exact ⟨trivial, List.forall_mem_nil _⟩
    | reaction =>
      obtain ⟨hnumber, hemoji⟩ := hsound
      refine ⟨⟨hnumber, isTrimmed_trimmed _⟩, List.forall_mem_cons.mpr ⟨hnumber.isLine, ?_⟩⟩
      exact List.forall_mem_singleton.mpr (isLine_trimmed hemoji)
    | history read =>
      have hrequest := HistoryArguments.sound_of_read read
      exact ⟨hrequest, fun s hs => (hrequest.channel s (Option.mem_toList.mp hs)).isLine⟩
    | delete | exec => exact ⟨hsound, List.forall_mem_singleton.mpr hsound.isLine⟩
    | sendTo message =>
      have hchannel := Reference.isChannelName_channelText hsound
      exact ⟨hchannel, List.forall_mem_singleton.mpr hchannel.isLine⟩
    | opensTo opening =>
      rintro _ ⟨⟩
      exact Reference.isChannelName_channelText hsound
    | opens opening => rintro _ ⟨⟩
    | media => exact ⟨isTrimmed_trimmed _, List.forall_mem_singleton.mpr (isLine_trimmed hsound)⟩
    | reactions =>
      refine ⟨fun emoji hemoji => (Emoji.mem_splitText hemoji).1, fun emoji hemoji hnewline => ?_⟩
      exact hsound ((Emoji.mem_splitText hemoji).2 _ hnewline)

/-! ## Texts -/

namespace Heredoc

/-- An open heredoc for a channel names it. -/
def NamesChannel (h : Heredoc) : Prop := ∀ o, h.opener = some o → o.NamesChannel

/-- The directive of a heredoc is within the data model. -/
theorem NamesChannel.directive {h : Heredoc} (hnames : h.NamesChannel) : h.directive.InModel := by
  have hsend : ∀ message, (Directive.send message).InModel :=
    fun _ => ⟨trivial, List.forall_mem_nil _⟩
  unfold Heredoc.directive
  cases ho : h.opener with
  | none => exact hsend _
  | some o =>
    dsimp only
    unfold Opener.directive
    split
    · rename_i channel _ hchannel
      have hname : IsChannelName channel := hnames o ho channel hchannel
      rw [if_neg hname.nonempty]
      exact ⟨hname, List.forall_mem_singleton.mpr hname.isLine⟩
    · exact hsend _

/-- A line leaves a heredoc that names its channel. -/
theorem NamesChannel.pass {h : Heredoc} (hnames : h.NamesChannel) {line : String}
    (hline : IsLine line) : (h.pass line).NamesChannel := by
  unfold Heredoc.pass
  cases ho : h.opener with
  | some o =>
    dsimp only
    split
    · rintro o' ⟨⟩
    · exact hnames
  | none =>
    cases hread : Line.read line with
    | error refusal => exact hnames
    | ok meaning =>
      cases meaning with
      | directive d => exact hnames
      | opens o =>
        rintro _ ⟨⟩
        exact Line.inModel_of_read hline hread

end Heredoc

namespace Response

/-- What a line gives is within the data model. -/
theorem given_inModel {h : Heredoc} (hnames : h.NamesChannel) {line : String}
    (hline : IsLine line) {ds : List Directive} (hgiven : given h line = .ok ds) :
    ∀ d ∈ ds, d.InModel := by
  unfold given at hgiven
  cases ho : h.opener with
  | some o =>
    rw [ho] at hgiven
    dsimp only at hgiven
    split at hgiven
    · cases hgiven
      exact List.forall_mem_singleton.mpr hnames.directive
    · cases hgiven
      exact List.forall_mem_nil _
  | none =>
    rw [ho] at hgiven
    cases hread : Line.read line with
    | error refusal =>
      rw [hread] at hgiven
      cases hgiven
    | ok meaning =>
      rw [hread] at hgiven
      cases meaning with
      | opens o =>
        cases hgiven
        exact List.forall_mem_nil _
      | directive d =>
        cases hgiven
        exact List.forall_mem_singleton.mpr (Line.inModel_of_read hline hread)

/-- What lines give is within the data model. -/
theorem ofLines_inModel {h : Heredoc} (hnames : h.NamesChannel) {ls : List String}
    (hlines : ∀ l ∈ ls, IsLine l) {ds : List Directive}
    (hread : (ofLines h ls).directives = .ok ds) : ∀ d ∈ ds, d.InModel := by
  induction ls generalizing h ds with
  | nil =>
    unfold ofLines at hread
    cases ho : h.opener with
    | none =>
      rw [ho] at hread
      cases hread
      exact List.forall_mem_nil _
    | some o =>
      rw [ho] at hread
      cases hread
      exact List.forall_mem_singleton.mpr hnames.directive
  | cons line rest ih =>
    obtain ⟨hline, hrest⟩ := List.forall_mem_cons.mp hlines
    obtain ⟨first, later, hgiven, hlater, rfl⟩ := directives_cons_ok hread
    exact List.forall_mem_append.mpr
      ⟨given_inModel hnames hline hgiven, ih (hnames.pass hline) hrest hlater⟩

/-- **Directives are within the data model.** Every directive of a text that is read has sound
fields, and all its texts but the message of one that sends stand on one line. -/
theorem directives_inModel {text : String} {ds : List Directive}
    (h : (read text).directives = .ok ds) : ∀ d ∈ ds, d.InModel := by
  have hclosed : Heredoc.closed.NamesChannel := by
    rintro o ⟨⟩
  exact ofLines_inModel hclosed (fun _ => isLine_of_mem_splitLines) h

/-- A request is cut at the most messages, a path is trimmed, and a heredoc is for the channel that
its opening names. -/
theorem directives_inModel_cut :
    let text := "!discord history 500 <#12> offset:3\nmedia:  a b \n!discord sendto #c <<E\nd\n\nE"
    let ds : List Directive := [.history { count := 100, channel := some "12", offset := 3 },
      .media "a b", .sendTo "c" "d\n"]
    (read text).directives = .ok ds ∧ ∀ d ∈ ds, d.InModel := by
  intro text ds
  have hread : (read text).directives = .ok ds := by decide +kernel
  exact ⟨hread, directives_inModel hread⟩

end Response

end ChatRelay
