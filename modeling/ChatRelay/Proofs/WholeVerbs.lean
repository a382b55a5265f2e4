import ChatRelay.Proofs.BlankArguments
import ChatRelay.Proofs.Deletion

/-!
# Verbs that stand whole

Behind `!discord` the verb of a command is a word of its own, with a blank or the end of the line
behind it (`Pattern.whole`), for every command but one. What stands behind `history` goes to the end
of the line and may begin with any character, so that a longer word is taken for the verb with
something behind it (`Pattern.gluedHistory`); such lines, and no others, are taken for a command
whose verb they do not have.

The main statement is `Line.verb_whole_iff`, and `Line.not_verb_whole_historyx` shows a line with
such a word.
-/

namespace ChatRelay

open Reader Text

namespace Pattern

variable {cs rest : List Char} {L : Language Char} {verb : String}

/-! ## Words behind `!discord` -/

/-- Characters that are no blanks, one or more. -/
def nonblanks : Language Char := run fun c => !isBlank c

/-- What may be left behind a whole word: nothing, or something with a blank at its start. -/
def behindWord : Language Char := {cs | ∀ c, cs.head? = some c → isBlank c = true}

/-- `!discord` and a word that stands whole. -/
def whole (w : String) : Language Char := command w behindWord

/-- `!discord history`, with a character right behind the verb that is no blank, and with anything
behind that up to the end of the line. -/
def gluedHistory : Language Char := command "history" (nonblanks * (anything * (1 + word "\n")))

/-- A word without blanks has a character, and none that is blank. -/
theorem mem_nonblanks_iff : cs ∈ nonblanks ↔ cs ≠ [] ∧ cs.all (!isBlank ·) = true :=
  and_congr_right fun _ => List.all_eq_true.symm

/-- A word does not go on with the blanks before it. -/
theorem ends_of_nonblanks (h : verb.toList ∈ nonblanks) : Ends (word verb) isBlank := by
  obtain ⟨hne, hblank⟩ := h
  obtain ⟨c, more, hverb⟩ := List.exists_cons_of_ne_nil hne
  exact .word hverb ((Bool.not_eq_true' _).mp (hblank c (hverb ▸ List.mem_cons_self)))

/-- Behind `!discord` and the blanks after it a word stands. -/
theorem behind_blanks (hverb : verb.toList ∈ nonblanks) (h : cs ∈ command verb L) :
    ∃ rest ∈ L, (keyword? "!discord" cs).bind blanks? = some (verb.toList ++ rest) := by
  obtain ⟨_, rfl, _, ⟨gap, ⟨hne, hblank⟩, _, ⟨_, rfl, rest, hrest, rfl⟩, rfl⟩, rfl⟩ := h
  obtain ⟨c, more, hword, hc⟩ := ends_of_nonblanks hverb _ rfl
  have hrun : run? isBlank (gap ++ (verb.toList ++ rest)) = some (gap, verb.toList ++ rest) := by
    refine run?_append hne hblank _ fun first hfirst => ?_
    rw [hword] at hfirst
    exact Option.some.inj hfirst ▸ hc
  refine ⟨rest, hrest, ?_⟩
  dsimp only
  rw [keyword?_append, Option.bind_some, blanks?_eq_run?, hrun, Option.map_some]

/-- A line has a verb, with something behind it, if and only if the verb is read and leaves that. -/
theorem mem_command_iff (hverb : verb.toList ∈ nonblanks) :
    cs ∈ command verb L ↔ ∃ rest ∈ L, verb? verb cs = some rest := by
  constructor
  · intro h
    obtain ⟨rest, hrest, hbehind⟩ := behind_blanks hverb h
    refine ⟨rest, hrest, ?_⟩
    rw [verb?, ← Option.bind_assoc, hbehind, Option.bind_some, keyword?_append]
  · rintro ⟨rest, hrest, hread⟩
    obtain ⟨gap, hgap, rfl⟩ := verb?_split hread
    have hblanks : gap.toList ∈ blanks :=
      ⟨fun hnil => hgap.nonempty (String.toList_eq_nil_iff.mp hnil),
        List.all_eq_true.mp hgap.blank⟩
    exact Language.append_mem_mul rfl
      (Language.append_mem_mul hblanks (Language.append_mem_mul rfl hrest))

/-- The word that stands whole behind `!discord` is the one that is read there. -/
theorem word?_of_whole {w : String} (hw : w.toList ∈ nonblanks) (h : cs ∈ whole w) :
    ∃ rest, ((keyword? "!discord" cs).bind blanks?).bind word? = some (w.toList, rest) := by
  obtain ⟨rest, hrest, hbehind⟩ := behind_blanks hw h
  refine ⟨rest, ?_⟩
  rw [hbehind, Option.bind_some]
  refine run?_append hw.1 hw.2 rest fun c hc => ?_
  rw [hrest c hc]
  rfl

/-- Only one word stands whole behind `!discord`. -/
theorem whole_unique {v w : String} (hv : v.toList ∈ nonblanks) (hw : w.toList ∈ nonblanks)
    (h : cs ∈ whole v) (h' : cs ∈ whole w) : v = w := by
  obtain ⟨rest, hfirst⟩ := word?_of_whole hv h
  obtain ⟨rest', hsecond⟩ := word?_of_whole hw h'
  have hread := Option.some.inj (hfirst.symm.trans hsecond)
  exact String.toList_injective (congrArg Prod.fst hread)

/-! ## What is left behind a verb -/

/-- The end of a line may be left behind a whole word. -/
theorem behindWord_of_isLineEnd (h : isLineEnd cs = true) : cs ∈ behindWord := by
  intro c hc
  rcases Bool.or_eq_true_iff.mp h with hempty | hnewline
  · rw [List.isEmpty_iff.mp hempty] at hc
    cases hc
  · rw [beq_iff_eq.mp hnewline] at hc
    cases hc
    decide

/-- Blanks may be left behind a whole word. -/
theorem behindWord_of_blanks? (h : blanks? cs = some rest) : cs ∈ behindWord := by
  cases cs with
  | nil => cases h
  | cons c more =>
    intro first hfirst
    cases hfirst
    by_contra hblank
    rw [blanks?, if_neg hblank] at h
    cases h

/-- An argument may be left behind a whole word. -/
theorem behindWord_of_argument? {argument : List Char} (h : argument? cs = some argument) :
    cs ∈ behindWord := by
  cases hblanks : blanks? cs with
  | none =>
    rw [argument?, hblanks] at h
    cases h
  | some rest => exact behindWord_of_blanks? hblanks

/-- The rest of a line is read where no newline stands but at the end. -/
theorem isSome_lineRest?_iff :
    (lineRest? cs).isSome = true ↔ cs ∈ anything * (1 + word "\n") := by
  rw [lineRest?, Option.isSome_ite]
  constructor
  · intro hend
    have hline : cs.takeWhile (· != '\n') ∈ anything := by
      intro hmem
      exact absurd (List.mem_takeWhile_imp hmem) (by decide)
    have hrest : cs.dropWhile (· != '\n') ∈ 1 + word "\n" := by
      rcases Bool.or_eq_true_iff.mp hend with hempty | hnewline
      · exact .inl (List.isEmpty_iff.mp hempty)
      · exact .inr (beq_iff_eq.mp hnewline)
    have hsplit : cs.takeWhile (· != '\n') ++ cs.dropWhile (· != '\n') = cs :=
      List.takeWhile_append_dropWhile
    exact hsplit ▸ Language.append_mem_mul hline hrest
  · rintro ⟨line, hline, newline, hnewline, rfl⟩
    have hall : ∀ c ∈ line, (c != '\n') = true := by
      intro c hc
      rw [bne_iff_ne]
      rintro rfl
      exact hline hc
    dsimp only
    rw [List.dropWhile_append_of_pos hall]
    rcases hnewline with rfl | rfl <;> rfl

/-- More of a word stands right behind the verb, and the line goes to its end. -/
theorem mem_glued_iff :
    rest ∈ nonblanks * (anything * (1 + word "\n")) ↔
      (lineRest? rest).isSome = true ∧ rest ∉ behindWord := by
  rw [isSome_lineRest?_iff]
  constructor
  · rintro ⟨more, ⟨hne, hmore⟩, _, ⟨line, hline, newline, hnewline, rfl⟩, rfl⟩
    have hword : '\n' ∉ more := fun hmem => absurd (hmore _ hmem) (by decide)
    have hboth : more ++ line ∈ anything := fun hmem => (List.mem_append.mp hmem).elim hword hline
    refine ⟨?_, fun hbehind => ?_⟩
    · dsimp only
      rw [← List.append_assoc]
      exact Language.append_mem_mul hboth hnewline
    · obtain ⟨c, more, rfl⟩ := List.exists_cons_of_ne_nil hne
      have hblank : isBlank c = true := hbehind c rfl
      have hnone : (!isBlank c) = true := hmore c List.mem_cons_self
      rw [hblank] at hnone
      cases hnone
  · rintro ⟨⟨line, hline, newline, hnewline, rfl⟩, hbehind⟩
    cases line with
    | nil =>
      -- an empty rest and a newline are no more of a word
      refine absurd (fun c hc => ?_) hbehind
      rcases hnewline with rfl | rfl
      · cases hc
      · cases hc
        decide
    | cons c line =>
      have hc : (!isBlank c) = true := by
        rw [Bool.not_eq_true', ← Bool.not_eq_true]
        intro hblank
        refine hbehind fun first hfirst => ?_
        cases hfirst
        exact hblank
      have hfirst : [c] ∈ nonblanks := ⟨List.cons_ne_nil c [], List.forall_mem_singleton.mpr hc⟩
      have hrest : line ∈ anything := fun hmem => hline (List.mem_cons_of_mem c hmem)
      exact ⟨[c], hfirst, line ++ newline, Language.append_mem_mul hrest hnewline, rfl⟩

end Pattern

/-! ## Verbs of commands -/

/-- The verb of the command that a meaning is of. Text has none, and neither have the commands that
are told by a word of their own. -/
def Line.verbOf? : Line → Option String
  | .directive .nop => some "nop"
  | .directive (.reaction _ _ _) => some "reaction"
  | .directive (.history _) => some "history"
  | .directive (.delete _) => some "delete"
  | .directive (.exec _) => some "exec"
  | .directive (.sendTo _ _) => some "sendto"
  | .directive (.send _) => some "send"
  | .directive (.text _) | .directive (.media _) | .directive (.reactions _) => none
  | .opens ⟨_, .sendTo, _⟩ => some "sendto"
  | .opens ⟨_, .send, _⟩ => some "send"

namespace Command

variable {line : String} {command : Command} {verb : String}

/-- The verb of a command that has one. -/
def verbOf? : Command → Option String
  | .nop => some "nop"
  | .reaction _ _ _ => some "reaction"
  | .history _ => some "history"
  | .delete _ => some "delete"
  | .exec _ => some "exec"
  | .sendTo _ _ => some "sendto"
  | .send _ => some "send"
  | .media _ | .reactions _ => none

/-- Every verb is a word. -/
theorem nonblanks_of_mem_verbs (h : verb ∈ verbs.map (·.1)) :
    verb.toList ∈ Pattern.nonblanks := by
  have hall : ∀ v ∈ verbs.map (·.1), v.toList ≠ [] ∧ v.toList.all (!isBlank ·) = true := by decide
  exact Pattern.mem_nonblanks_iff.mpr (hall verb h)

/-- Where another word stands whole, no verb does. -/
theorem not_whole_verb {w : String} (hw : w.toList ∈ Pattern.nonblanks)
    (hother : w ∉ verbs.map (·.1)) (h : line.toList ∈ Pattern.whole w) :
    ∀ verb ∈ verbs.map (·.1), line.toList ∉ Pattern.whole verb := by
  intro verb hverb hmem
  have hsame : verb = w := Pattern.whole_unique (nonblanks_of_mem_verbs hverb) hw hmem h
  exact hother (hsame ▸ hverb)

/-- The verb of a command is one of the verbs. -/
theorem verbOf?_mem (h : command.verbOf? = some verb) : verb ∈ verbs.map (·.1) := by
  cases command <;> cases h <;> decide

/-- What is recognised behind `!discord` has a verb. -/
theorem exists_verbOf? (hline : "!discord".toList <+: line.toList)
    (h : ofLine? line = some command) : ∃ verb, command.verbOf? = some verb := by
  obtain ⟨rest, hrest⟩ := hline
  have hdiscord : keyword? "!discord" line.toList ≠ none := by
    rw [← hrest, keyword?_append]
    exact nofun
  have hlabel : ∀ label ∈ labels, keyword? label.1 line.toList = none := by
    have hapart : ∀ label ∈ labels, Apart "!discord" label.1 := by decide
    exact fun label hmem => ((hapart label hmem).keyword? _).resolve_left hdiscord
  have hread := recogniser_of_ofLine? h
  cases command with
  | media path =>
    have hmem : ("media:", media?) ∈ labels := by simp [labels]
    cases hread.symm.trans (eq_none_of_label hmem (hlabel _ hmem))
  | reactions emojis =>
    have hmem : ("reactions:", reactions?) ∈ labels := by simp [labels]
    cases hread.symm.trans (eq_none_of_label hmem (hlabel _ hmem))
  | nop | reaction _ _ _ | history _ | delete _ | exec _ | sendTo _ _ | send _ => exact ⟨_, rfl⟩

/-- The verb of a command that is recognised is read, and stands whole or is that of a history
command. -/
theorem verb_of_ofLine? (h : ofLine? line = some command) (hverb : command.verbOf? = some verb) :
    ∃ rest, Reader.verb? verb line.toList = some rest ∧
      (rest ∈ Pattern.behindWord ∨ verb = "history" ∧ (lineRest? rest).isSome = true) := by
  have hread := recogniser_of_ofLine? h
  cases command with
  | nop =>
    cases hverb
    obtain ⟨rest, hread, hend⟩ := Option.bind_eq_some_iff.mp hread
    refine ⟨rest, hread, .inl (Pattern.behindWord_of_isLineEnd ?_)⟩
    by_contra hmore
    rw [if_neg hmore] at hend
    cases hend
  | history arguments =>
    cases hverb
    obtain ⟨rest, hread, hrest⟩ := Option.bind_eq_some_iff.mp hread
    obtain ⟨behind, hbehind, -⟩ := Option.map_eq_some_iff.mp hrest
    exact ⟨rest, hread, .inr ⟨rfl, Option.isSome_of_eq_some hbehind⟩⟩
  | send content =>
    cases hverb
    obtain ⟨rest, hread, hrest⟩ := Option.bind_eq_some_iff.mp hread
    obtain ⟨argument, hargument, -⟩ := Option.map_eq_some_iff.mp hrest
    exact ⟨rest, hread, .inl (Pattern.behindWord_of_argument? hargument)⟩
  | reaction _ _ _ | delete _ | exec _ | sendTo _ _ =>
    cases hverb
    obtain ⟨rest, hread, hrest⟩ := Option.bind_eq_some_iff.mp hread
    obtain ⟨after, hblanks, -⟩ := Option.bind_eq_some_iff.mp hrest
    exact ⟨rest, hread, .inl (Pattern.behindWord_of_blanks? hblanks)⟩
  | media _ | reactions _ => cases hverb

/-- What a command means is of its verb. -/
theorem Means.verbOf?_eq {meaning : Line} (h : command.Means meaning) :
    meaning.verbOf? = command.verbOf? := by
  cases h <;> rfl

end Command

namespace Line

variable {line : String}

/-- The verb of the command that a line is taken for. -/
def takenFor? (line : String) : Option String := (Command.ofLine? line).bind Command.verbOf?

/-- A line that cannot be read is taken for a history command. -/
theorem takenFor?_of_error {refusal : Numeral.Refusal} (h : read line = .error refusal) :
    takenFor? line = some "history" := by
  unfold read at h
  cases hcommand : Command.ofLine? line with
  | none =>
    rw [hcommand] at h
    cases h
  | some command =>
    rw [hcommand] at h
    rw [takenFor?, hcommand, Option.bind_some]
    cases command with
    | history arguments => rfl
    | sendTo channel content | send content =>
      dsimp only [ofCommand] at h
      split at h <;> cases h
    | nop | reaction _ _ _ | delete _ | exec _ | media _ | reactions _ => cases h

/-- What a line means is of the verb that the line is taken for. -/
theorem verbOf?_of_read {meaning : Line} (h : read line = .ok meaning) :
    meaning.verbOf? = takenFor? line := by
  rcases read_eq_ok_iff.mp h with ⟨hnone, rfl⟩ | ⟨command, hcommand, hmeans⟩
  · rw [takenFor?, hnone]
    rfl
  · rw [takenFor?, hcommand, Option.bind_some, hmeans.verbOf?_eq]

/-- A line is taken for a command whose verb stands whole, or for a history command. -/
theorem whole_or_glued {verb : String} (h : takenFor? line = some verb) :
    line.toList ∈ Pattern.whole verb ∨
      verb = "history" ∧ line.toList ∈ Pattern.gluedHistory := by
  obtain ⟨command, hcommand, hverb⟩ := Option.bind_eq_some_iff.mp h
  have hword := Command.nonblanks_of_mem_verbs (Command.verbOf?_mem hverb)
  obtain ⟨rest, hread, hrest⟩ := Command.verb_of_ofLine? hcommand hverb
  by_cases hbehind : rest ∈ Pattern.behindWord
  · exact .inl ((Pattern.mem_command_iff hword).mpr ⟨rest, hbehind, hread⟩)
  · obtain ⟨rfl, hend⟩ := hrest.resolve_left hbehind
    have hglued := Pattern.mem_glued_iff.mpr ⟨hend, hbehind⟩
    exact .inr ⟨rfl, (Pattern.mem_command_iff hword).mpr ⟨rest, hglued, hread⟩⟩

/-- A longer word is taken for the verb of a history command, which does not stand whole there. -/
theorem takenFor?_of_glued (h : line.toList ∈ Pattern.gluedHistory) :
    takenFor? line = some "history" ∧ line.toList ∉ Pattern.whole "history" := by
  have hword : "history".toList ∈ Pattern.nonblanks :=
    Command.nonblanks_of_mem_verbs (by decide)
  obtain ⟨rest, hglued, hread⟩ := (Pattern.mem_command_iff hword).mp h
  obtain ⟨hend, hbehind⟩ := Pattern.mem_glued_iff.mp hglued
  obtain ⟨arguments, harguments⟩ := Option.isSome_iff_exists.mp hend
  have hhistory : Command.history? line.toList = some (.history (String.ofList arguments)) := by
    rw [Command.history?, hread, Option.bind_some, harguments, Option.map_some]
  have hmem : Command.history? ∈ Command.recognisers := by simp [Command.recognisers]
  constructor
  · rw [takenFor?, Command.ofLine?_of_mem hmem hhistory]
    rfl
  · intro hwhole
    obtain ⟨rest', hrest', hread'⟩ := (Pattern.mem_command_iff hword).mp hwhole
    cases hread.symm.trans hread'
    exact hbehind hrest'

/-- A line behind `!discord` is text if and only if it is taken for no command with a verb. -/
theorem read_text_iff (hline : "!discord".toList <+: line.toList) :
    read line = .ok (.directive (.text line)) ↔ takenFor? line = none := by
  rw [read_eq_ok_iff, takenFor?]
  constructor
  · rintro (⟨hnone, -⟩ | ⟨command, -, hmeans⟩)
    · rw [hnone, Option.bind_none]
    · cases hmeans
  · intro hnone
    refine .inl ⟨?_, rfl⟩
    by_contra hsome
    obtain ⟨command, hcommand⟩ := Option.ne_none_iff_exists'.mp hsome
    obtain ⟨verb, hverb⟩ := Command.exists_verbOf? hline hcommand
    rw [hcommand, Option.bind_some, hverb] at hnone
    cases hnone

/-- **A command has its whole verb, unless a longer word begins with `history`.** What a line means
is of the verb of the command that the line is taken for, a line that cannot be read is taken for a
history command, and there are seven verbs. The verb is the word behind `!discord`, and only one
word stands there; but for the lines on which a word that goes on behind `history` is taken for that
verb, and these are all the lines that are taken for a command without its verb. A line behind
`!discord` with none of the seven verbs for its word is text, but for those lines. -/
theorem verb_whole_iff (line : String) :
    (∀ meaning, read line = .ok meaning → meaning.verbOf? = takenFor? line) ∧
    (∀ refusal, read line = .error refusal → takenFor? line = some "history") ∧
    (∀ verb, takenFor? line = some verb → verb ∈ Command.verbs.map (·.1) ∧
      (line.toList ∈ Pattern.whole verb ∨
        verb = "history" ∧ line.toList ∈ Pattern.gluedHistory)) ∧
    ((∃ verb, takenFor? line = some verb ∧ line.toList ∉ Pattern.whole verb) ↔
      line.toList ∈ Pattern.gluedHistory) ∧
    (∀ v w : String, v.toList ∈ Pattern.nonblanks → w.toList ∈ Pattern.nonblanks →
      line.toList ∈ Pattern.whole v → line.toList ∈ Pattern.whole w → v = w) ∧
    ("!discord".toList <+: line.toList →
      (∀ verb ∈ Command.verbs.map (·.1), line.toList ∉ Pattern.whole verb) →
        (read line = .ok (.directive (.text line)) ↔ line.toList ∉ Pattern.gluedHistory)) := by
  refine ⟨fun _ hread => verbOf?_of_read hread, fun _ hrefused => takenFor?_of_error hrefused,
    fun verb htaken => ⟨?_, whole_or_glued htaken⟩, ?_,
    fun v w hv hw => Pattern.whole_unique hv hw, fun hline hnone => ?_⟩
  · obtain ⟨command, -, hverb⟩ := Option.bind_eq_some_iff.mp htaken
    exact Command.verbOf?_mem hverb
  · constructor
    · rintro ⟨verb, htaken, hpart⟩
      exact ((whole_or_glued htaken).resolve_left hpart).2
    · intro hglued
      exact ⟨"history", takenFor?_of_glued hglued⟩
  · rw [read_text_iff hline]
    constructor
    · intro htext hglued
      cases htext.symm.trans (takenFor?_of_glued hglued).1
    · intro hglued
      by_contra htaken
      obtain ⟨verb, hverb⟩ := Option.ne_none_iff_exists'.mp htaken
      obtain ⟨command, -, hcommand⟩ := Option.bind_eq_some_iff.mp hverb
      rcases whole_or_glued hverb with hwhole | ⟨-, hhistory⟩
      · exact hnone verb (Command.verbOf?_mem hcommand) hwhole
      · exact hglued hhistory

/-- The word `sendtox` is none of the verbs and begins with two of them, and its line is text. -/
theorem verb_whole_iff_sendtox :
    let line := "!discord sendtox #a hi"
    "!discord".toList <+: line.toList ∧ line.toList ∈ Pattern.whole "sendtox" ∧
      (∀ verb ∈ Command.verbs.map (·.1), line.toList ∉ Pattern.whole verb) ∧
      line.toList ∉ Pattern.gluedHistory ∧ read line = .ok (.directive (.text line)) := by
  intro line
  obtain ⟨-, -, -, hglued, -, htext⟩ := verb_whole_iff line
  have hline : "!discord".toList <+: line.toList := ⟨" sendtox #a hi".toList, by decide⟩
  have hword : "sendtox".toList ∈ Pattern.nonblanks := Pattern.mem_nonblanks_iff.mpr (by decide)
  have hwhole : line.toList ∈ Pattern.whole "sendtox" := by
    refine (Pattern.mem_command_iff hword).mpr ⟨" #a hi".toList, ?_, by decide⟩
    rintro c ⟨⟩
    decide
  have hnone := Command.not_whole_verb hword (by decide) hwhole
  have htaken : takenFor? line = none := by decide
  have hnot : line.toList ∉ Pattern.gluedHistory := by
    intro hmem
    obtain ⟨verb, hverb, -⟩ := hglued.mpr hmem
    cases htaken.symm.trans hverb
  exact ⟨hline, hwhole, hnone, hnot, (htext hline hnone).mpr hnot⟩

/-- Not every command has its whole verb, and not every line with another word behind `!discord` is
text: the word `historyx` is taken for the verb `history`. -/
theorem not_verb_whole_historyx :
    read "!discord historyx" = .ok (.directive (.history {})) ∧
      "!discord historyx".toList ∈ Pattern.whole "historyx" ∧
      ¬(∀ line verb, takenFor? line = some verb → line.toList ∈ Pattern.whole verb) ∧
      ¬∀ line : String, "!discord".toList <+: line.toList →
        (∀ verb ∈ Command.verbs.map (·.1), line.toList ∉ Pattern.whole verb) →
          read line = .ok (.directive (.text line)) := by
  have hread : read "!discord historyx" = .ok (.directive (.history {})) := by decide
  have htaken : takenFor? "!discord historyx" = some "history" := by decide
  have hword : "historyx".toList ∈ Pattern.nonblanks := Pattern.mem_nonblanks_iff.mpr (by decide)
  have hwhole : "!discord historyx".toList ∈ Pattern.whole "historyx" :=
    (Pattern.mem_command_iff hword).mpr ⟨[], nofun, by decide⟩
  have hnone := Command.not_whole_verb hword (by decide) hwhole
  refine ⟨hread, hwhole, fun hall => ?_, fun hall => ?_⟩
  · exact hnone "history" (by decide) (hall _ _ htaken)
  · have hline : "!discord".toList <+: "!discord historyx".toList := ⟨" historyx".toList, by decide⟩
    cases hread.symm.trans (hall _ hline hnone)

end Line

end ChatRelay
