import ChatRelay.Directive.Line
import ChatRelay.Proofs.Lines

/-!
# Lines that are read

What is known of every line that is read outside a heredoc. A line that opens a heredoc names a
delimiter of word characters, and a channel where the heredoc is for one (`Line.read_opens`). A
line is read unless it is a history command with a number that is too long
(`Line.Readable.read`).
-/

namespace ChatRelay

open Reader Text

/-! ## Pieces of a line -/

/-- A run is not empty, and all its characters belong to the class. -/
theorem Reader.run?_sound {inClass : Char → Bool} {cs run rest : List Char}
    (h : run? inClass cs = some (run, rest)) : run ≠ [] ∧ ∀ c ∈ run, inClass c = true := by
  unfold run? at h
  split at h
  · cases h
  · rename_i hne
    cases h
    refine ⟨fun hnil => hne (by rw [hnil]; rfl), fun c hc => ?_⟩
    exact List.all_eq_true.mp List.all_takeWhile c hc

/-- Word characters make a line. -/
theorem isLine_of_word {s : String} (h : ∀ c ∈ s.toList, isWordChar c = true) : IsLine s := by
  intro hmem
  exact absurd (h _ hmem) (by decide)

namespace Reference

/-- A delimiter is made of word characters. -/
theorem delimiter?_sound {content delimiter : String}
    (h : delimiter? content = some delimiter) :
    ∀ c ∈ delimiter.toList, isWordChar c = true := by
  obtain ⟨rest, -, h⟩ := Option.bind_eq_some_iff.mp h
  obtain ⟨⟨run, after⟩, hrun, h⟩ := Option.bind_eq_some_iff.mp h
  split at h
  · cases h
    rw [String.toList_ofList]
    exact (run?_sound hrun).2
  · cases h

/-- A delimiter is not empty. -/
theorem delimiter?_ne_empty {content delimiter : String}
    (h : delimiter? content = some delimiter) : delimiter ≠ "" := by
  obtain ⟨rest, -, h⟩ := Option.bind_eq_some_iff.mp h
  obtain ⟨⟨run, after⟩, hrun, h⟩ := Option.bind_eq_some_iff.mp h
  split at h
  · cases h
    exact fun hempty => (run?_sound hrun).1 (String.ofList_eq_empty_iff.mp hempty)
  · cases h

/-- A mention names its channel by digits. -/
theorem mention?_sound {cs digits : List Char} (h : mention? cs = some digits) :
    digits ≠ [] ∧ ∀ c ∈ digits, isDecimal c = true := by
  obtain ⟨rest, -, h⟩ := Option.bind_eq_some_iff.mp h
  obtain ⟨⟨run, after⟩, hrun, h⟩ := Option.bind_eq_some_iff.mp h
  obtain ⟨rest', -, h⟩ := Option.bind_eq_some_iff.mp h
  split at h
  · cases h
    exact run?_sound hrun
  · cases h

/-- A name behind a hash sign has no blanks. -/
theorem hashName?_sound {cs name : List Char} (h : hashName? cs = some name) :
    name ≠ [] ∧ ∀ c ∈ name, (!isBlank c) = true := by
  obtain ⟨rest, -, h⟩ := Option.bind_eq_some_iff.mp h
  obtain ⟨⟨run, after⟩, hrun, h⟩ := Option.bind_eq_some_iff.mp h
  split at h
  · cases h
    exact run?_sound hrun
  · cases h

/-- The channel that a reference names is never empty, unless the reference is. -/
theorem channelText_ne_empty {ref : String} (h : ref ≠ "") : channelText ref ≠ "" := by
  intro hempty
  have hnil : channel ref.toList = [] := String.ofList_eq_empty_iff.mp hempty
  unfold channel at hnil
  cases hm : mention? ref.toList with
  | some digits =>
    rw [hm] at hnil
    exact (mention?_sound hm).1 hnil
  | none =>
    cases hn : hashName? ref.toList with
    | some name =>
      rw [hm, hn] at hnil
      exact (hashName?_sound hn).1 hnil
    | none =>
      rw [hm, hn] at hnil
      exact h (String.toList_eq_nil_iff.mp hnil)

end Reference

/-! ## Forms -/

namespace Command

/-- The recogniser of the form that a command has. -/
def recogniser : Command → List Char → Option Command
  | .nop => nop?
  | .reaction _ _ _ => reaction?
  | .history _ => history?
  | .delete _ => delete?
  | .exec _ => exec?
  | .sendTo _ _ => sendTo?
  | .send _ => send?
  | .media _ => media?
  | .reactions _ => reactions?

/-- A recogniser reads commands of its own form only. -/
theorem recogniser_eq {recognise : List Char → Option Command} (hmem : recognise ∈ recognisers)
    {cs : List Char} {command : Command} (h : recognise cs = some command) :
    command.recogniser = recognise := by
  simp only [recognisers, List.mem_cons, List.not_mem_nil, or_false] at hmem
  rcases hmem with rfl | rfl | rfl | rfl | rfl | rfl | rfl | rfl | rfl
  case inl =>
    obtain ⟨rest, -, h⟩ := Option.bind_eq_some_iff.mp h
    split at h
    · cases h
      rfl
    · cases h
  all_goals
    simp only [reaction?, history?, delete?, exec?, sendTo?, send?, media?, reactions?,
      Option.bind_eq_some_iff, Option.map_eq_some_iff] at h
    grind [recogniser]

/-- A command is read by the recogniser of its form. -/
theorem recogniser_of_ofLine? {line : String} {command : Command}
    (h : ofLine? line = some command) : command.recogniser line.toList = some command := by
  obtain ⟨recognise, hmem, hread⟩ := List.exists_of_findSome?_eq_some h
  rwa [recogniser_eq hmem hread]

end Command

/-! ## Meanings -/

open Reference in
/-- What a command may mean. -/
inductive Command.Means : Command → Line → Prop where
  | nop : Means .nop (.directive .nop)
  | reaction {messageId emoji : String} {remove : Bool} :
      Means (.reaction messageId remove emoji)
        (.directive (.reaction messageId (Line.trimmed emoji) remove))
  | history {arguments : String} {request : HistoryRequest}
      (read : HistoryArguments.read arguments = .ok request) :
      Means (.history arguments) (.directive (.history request))
  | delete {messageId : String} : Means (.delete messageId) (.directive (.delete messageId))
  | exec {messageId : String} : Means (.exec messageId) (.directive (.exec messageId))
  | sendTo {channel content : String} (message : delimiter? content = none) :
      Means (.sendTo channel content) (.directive (.sendTo (channelText channel) content))
  | opensTo {channel content delimiter : String} (opening : delimiter? content = some delimiter) :
      Means (.sendTo channel content) (.opens ⟨delimiter, .sendTo, some (channelText channel)⟩)
  | send {content : String} (message : delimiter? content = none) :
      Means (.send content) (.directive (.send content))
  | opens {content delimiter : String} (opening : delimiter? content = some delimiter) :
      Means (.send content) (.opens ⟨delimiter, .send, none⟩)
  | media {path : String} : Means (.media path) (.directive (.media (Line.trimmed path)))
  | reactions {emojis : String} :
      Means (.reactions emojis) (.directive (.reactions (Emoji.splitText emojis)))

/-- A command that can be read means one thing. -/
theorem Line.ofCommand_eq_ok_iff {command : Command} {meaning : Line} :
    ofCommand command = .ok meaning ↔ command.Means meaning := by
  constructor
  · intro h
    cases command with
    | history arguments =>
      cases hread : HistoryArguments.read arguments with
      | error refusal =>
        rw [ofCommand, hread] at h
        cases h
      | ok request =>
        rw [ofCommand, hread] at h
        cases h
        exact .history hread
    | sendTo channel content =>
      rw [ofCommand] at h
      cases hopening : Reference.delimiter? content with
      | none =>
        rw [hopening] at h
        cases h
        exact .sendTo hopening
      | some delimiter =>
        rw [hopening] at h
        cases h
        exact .opensTo hopening
    | send content =>
      rw [ofCommand] at h
      cases hopening : Reference.delimiter? content with
      | none =>
        rw [hopening] at h
        cases h
        exact .send hopening
      | some delimiter =>
        rw [hopening] at h
        cases h
        exact .opens hopening
    | nop | reaction _ _ _ | delete _ | exec _ | media _ | reactions _ =>
      cases h
      constructor
  · intro h
    cases h with
    | history read =>
      rw [ofCommand, read]
      rfl
    | sendTo message | send message => rw [ofCommand, message]
    | opensTo opening | opens opening => rw [ofCommand, opening]
    | nop | reaction | delete | exec | media | reactions => rfl

/-- What a line means that is read: itself when it is no command, or else what the command
means. -/
theorem Line.read_eq_ok_iff {line : String} {meaning : Line} :
    Line.read line = .ok meaning ↔
      Command.ofLine? line = none ∧ meaning = .directive (.text line) ∨
        ∃ command, Command.ofLine? line = some command ∧ command.Means meaning := by
  unfold Line.read
  cases hcommand : Command.ofLine? line with
  | none => simp [eq_comm]
  | some command => simp [ofCommand_eq_ok_iff]

/-! ## Openers -/

/-- The channel of a command to send to a channel is not empty. -/
theorem Command.sendTo_ne_empty {line channel content : String}
    (h : ofLine? line = some (.sendTo channel content)) : channel ≠ "" := by
  obtain ⟨rest, -, hr⟩ := Option.bind_eq_some_iff.mp (recogniser_of_ofLine? h)
  obtain ⟨rest', -, hr⟩ := Option.bind_eq_some_iff.mp hr
  obtain ⟨⟨run, after⟩, hrun, hr⟩ := Option.bind_eq_some_iff.mp hr
  obtain ⟨content', -, he⟩ := Option.map_eq_some_iff.mp hr
  cases he
  exact fun hempty => (run?_sound hrun).1 (String.ofList_eq_empty_iff.mp hempty)

/-- What is known of the opening of every heredoc. -/
structure Heredoc.Opener.Sound (o : Heredoc.Opener) : Prop where
  delimiter : ∀ c ∈ o.delimiter.toList, isWordChar c = true
  channel : o.kind = .sendTo → ∃ c, o.channel = some c ∧ c ≠ ""

namespace Heredoc.Opener.Sound

/-- A delimiter is one line. -/
theorem isLine {o : Heredoc.Opener} (h : o.Sound) : IsLine o.delimiter :=
  isLine_of_word h.delimiter

/-- A heredoc for a channel is always ended as one. -/
theorem directive {o : Heredoc.Opener} (h : o.Sound) (hk : o.kind = .sendTo) :
    ∃ c, c ≠ "" ∧ o.channel = some c ∧ ∀ message, o.directive message = .sendTo c message := by
  obtain ⟨c, hc, hne⟩ := h.channel hk
  refine ⟨c, hne, hc, fun message => ?_⟩
  simp only [Heredoc.Opener.directive, hk, hc, hne, if_false]

end Heredoc.Opener.Sound

/-- What opens a heredoc is sound. -/
theorem Line.read_opens {line : String} {o : Heredoc.Opener} (h : Line.read line = .ok (.opens o)) :
    o.Sound := by
  rcases Line.read_eq_ok_iff.mp h with ⟨-, htext⟩ | ⟨command, hcommand, hmeans⟩
  · cases htext
  · cases hmeans with
    | opensTo opening =>
      refine ⟨Reference.delimiter?_sound opening, fun _ => ⟨_, rfl, ?_⟩⟩
      exact Reference.channelText_ne_empty (Command.sendTo_ne_empty hcommand)
    | opens opening => exact ⟨Reference.delimiter?_sound opening, fun hk => by cases hk⟩

/-! ## Lines that can be read -/

/-- No number of a history command on this line has too many digits. -/
def Line.Readable (line : String) : Prop :=
  ∀ arguments, Command.ofLine? line = some (.history arguments) →
    ∀ word ∈ words arguments.toList, ∀ digits,
      HistoryArguments.offset? word = some digits ∨ lastDigits? word = some digits →
        digits.length ≤ Numeral.limit

/-- An argument is applied when its number is not too long. -/
theorem HistoryArguments.apply_ok {word : List Char} {argument : Argument}
    (ha : Argument.of? word = some argument)
    (hd : ∀ digits, offset? word = some digits ∨ lastDigits? word = some digits →
      digits.length ≤ Numeral.limit) (request : HistoryRequest) :
    ∃ request', argument.apply request = .ok request' := by
  have hnumber : ∀ {digits}, offset? word = some digits ∨ lastDigits? word = some digits →
      Numeral.ofDigits digits = .ok (decimalValue digits) := by
    intro digits h
    exact if_neg (Nat.not_lt.mpr (hd digits h))
  unfold Argument.of? at ha
  cases ho : offset? word with
  | some digits =>
    rw [ho] at ha
    cases ha
    refine ⟨{ request with offset := decimalValue digits }, ?_⟩
    rw [Argument.apply, hnumber (.inl ho)]
    rfl
  | none =>
    cases hm : Reference.mention? word with
    | some digits =>
      rw [ho, hm] at ha
      cases ha
      exact ⟨_, rfl⟩
    | none =>
      rw [ho, hm] at ha
      obtain ⟨digits, hl, rfl⟩ := Option.map_eq_some_iff.mp ha
      refine ⟨{ request with count := (min (decimalValue digits) maxCount : Nat) }, ?_⟩
      rw [Argument.apply, hnumber (.inr hl)]
      rfl

/-- Arguments are read when their numbers are not too long. -/
theorem HistoryArguments.readWords_ok {ws : List (List Char)}
    (hd : ∀ word ∈ ws, ∀ digits, offset? word = some digits ∨ lastDigits? word = some digits →
      digits.length ≤ Numeral.limit) (request : HistoryRequest) :
    ∃ request', readWords request ws = .ok request' := by
  induction ws generalizing request with
  | nil => exact ⟨request, rfl⟩
  | cons word rest ih =>
    have hrest := ih fun w hw => hd w (List.mem_cons_of_mem word hw)
    unfold readWords
    cases ha : Argument.of? word with
    | none => exact hrest request
    | some argument =>
      obtain ⟨request', hok⟩ := apply_ok ha (hd word List.mem_cons_self) request
      simp only [hok, Except.bind]
      exact hrest request'

/-- A line is read, unless it holds a number that is too long. -/
theorem Line.Readable.read {line : String} (h : Line.Readable line) :
    ∃ meaning, Line.read line = .ok meaning := by
  unfold Line.read
  cases hc : Command.ofLine? line with
  | none => exact ⟨_, rfl⟩
  | some command =>
    cases command with
    | history arguments =>
      obtain ⟨request, hr⟩ := HistoryArguments.readWords_ok (h arguments hc) {}
      refine ⟨.directive (.history request), ?_⟩
      simp only [ofCommand, HistoryArguments.read, hr, Except.map]
    | sendTo channel content =>
      simp only [ofCommand]
      split <;> exact ⟨_, rfl⟩
    | send content =>
      simp only [ofCommand]
      split <;> exact ⟨_, rfl⟩
    | nop | reaction _ _ _ | delete _ | exec _ | media _ | reactions _ => exact ⟨_, rfl⟩

end ChatRelay
