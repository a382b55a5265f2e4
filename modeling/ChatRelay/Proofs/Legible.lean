import ChatRelay.Proofs.Verdict
import ChatRelay.Proofs.Writing

/-!
# Texts that are read

A text is read unless a history command of it, outside its heredocs, holds a number with too many
digits; nothing else that an agent may write is refused. A refusal goes on into the unit of work:
the work on such a text fails.

The main statement is `Response.refused_iff`, and `Response.not_read_longNumber` shows a text that
is not read.
-/

namespace ChatRelay

open Reader Text

/-! ## Numbers that are too long -/

/-- A refusal of a number because it has more than the most digits. -/
def Text.Numeral.IsTooLong (refusal : Numeral.Refusal) : Prop :=
  ∃ n, Numeral.limit < n ∧ refusal = .tooLong n

/-- A number that is read has no more than the most digits. -/
theorem Text.Numeral.ofDigits_eq_ok {digits : List Char} {n : Nat} (h : ofDigits digits = .ok n) :
    digits.length ≤ limit := by
  unfold ofDigits at h
  split at h
  · cases h
  · rename_i hshort
    exact Nat.not_lt.mp hshort

/-- A number that is refused has more than the most digits. -/
theorem Text.Numeral.ofDigits_eq_error {digits : List Char} {refusal : Refusal}
    (h : ofDigits digits = .error refusal) : IsTooLong refusal := by
  unfold ofDigits at h
  split at h
  · rename_i hlong
    cases h
    exact ⟨digits.length, hlong, rfl⟩
  · cases h

/-- A word that is a number starts with a digit. -/
theorem Reader.first_of_lastDigits? {word digits : List Char} (h : lastDigits? word = some digits) :
    ∃ c rest, word = c :: rest ∧ isDecimal c = true := by
  obtain ⟨⟨run, after⟩, hrun, -⟩ := Option.bind_eq_some_iff.mp h
  obtain ⟨hne, hdigits⟩ := run?_sound hrun
  have hword : run ++ after = word := run?_split hrun
  cases run with
  | nil => exact absurd rfl hne
  | cons c run => exact ⟨c, run ++ after, hword.symm, hdigits c List.mem_cons_self⟩

namespace HistoryArguments

/-- A word that is a number is a number of messages. -/
theorem of?_lastDigits {word digits : List Char} (h : lastDigits? word = some digits) :
    Argument.of? word = some (.count digits) := by
  obtain ⟨c, rest, rfl, hc⟩ := first_of_lastDigits? h
  have hfirst : ∀ first, isDecimal first = false → c ≠ first := by
    rintro first hno rfl
    rw [hc] at hno
    cases hno
  have hoffset : offset? (c :: rest) = none := by
    rw [offset?, keyword?_of_first rfl (hfirst 'o' (by decide)), Option.bind_none]
  have hmention : Reference.mention? (c :: rest) = none := by
    rw [Reference.mention?, keyword?_of_first rfl (hfirst '<' (by decide)), Option.bind_none]
  simp only [Argument.of?, hoffset, hmention, h, Option.map_none, Option.none_or, Option.map_some]

/-- A word that is an offset is one among the arguments. -/
theorem of?_offsetDigits {word digits : List Char} (h : offset? word = some digits) :
    Argument.of? word = some (.offset digits) := by
  simp only [Argument.of?, h, Option.map_some, Option.some_or]

/-- A word that is applied holds no number that is too long. -/
theorem length_le_of_apply_ok {word : List Char} {argument : Argument}
    {request request' : HistoryRequest} (ha : Argument.of? word = some argument)
    (h : argument.apply request = .ok request') {digits : List Char}
    (hdigits : offset? word = some digits ∨ lastDigits? word = some digits) :
    digits.length ≤ Numeral.limit := by
  have hargument : argument = .offset digits ∨ argument = .count digits := by
    rcases hdigits with hoffset | hcount
    · rw [of?_offsetDigits hoffset] at ha
      exact .inl (Option.some.inj ha).symm
    · rw [of?_lastDigits hcount] at ha
      exact .inr (Option.some.inj ha).symm
  have hread : ∃ n, Numeral.ofDigits digits = .ok n := by
    cases hn : Numeral.ofDigits digits with
    | ok n => exact ⟨n, rfl⟩
    | error refusal =>
      rcases hargument with rfl | rfl
      all_goals
        rw [Argument.apply, hn] at h
        cases h
  obtain ⟨n, hn⟩ := hread
  exact Numeral.ofDigits_eq_ok hn

/-- Arguments that are read hold no number that is too long. -/
theorem length_le_of_readWords_ok {ws : List (List Char)} {request request' : HistoryRequest}
    (h : readWords request ws = .ok request') :
    ∀ word ∈ ws, ∀ digits, offset? word = some digits ∨ lastDigits? word = some digits →
      digits.length ≤ Numeral.limit := by
  induction ws generalizing request with
  | nil => exact nofun
  | cons word rest ih =>
    unfold readWords at h
    cases ha : Argument.of? word with
    | none =>
      rw [ha] at h
      refine List.forall_mem_cons.mpr ⟨fun digits hdigits => ?_, ih h⟩
      rcases hdigits with hoffset | hcount
      · rw [of?_offsetDigits hoffset] at ha
        cases ha
      · rw [of?_lastDigits hcount] at ha
        cases ha
    | some argument =>
      simp only [ha] at h
      cases happly : argument.apply request with
      | error refusal =>
        rw [happly] at h
        cases h
      | ok next =>
        rw [happly] at h
        exact List.forall_mem_cons.mpr ⟨fun _ => length_le_of_apply_ok ha happly, ih h⟩

/-- Arguments are refused only for a number that is too long. -/
theorem isTooLong_of_readWords_error {ws : List (List Char)} {request : HistoryRequest}
    {refusal : Numeral.Refusal} (h : readWords request ws = .error refusal) :
    Numeral.IsTooLong refusal := by
  induction ws generalizing request with
  | nil => cases h
  | cons word rest ih =>
    unfold readWords at h
    cases ha : Argument.of? word with
    | none =>
      rw [ha] at h
      exact ih h
    | some argument =>
      simp only [ha] at h
      cases happly : argument.apply request with
      | ok next =>
        rw [happly] at h
        exact ih h
      | error refusal' =>
        rw [happly] at h
        cases h
        cases argument with
        | channel digits => cases happly
        | offset digits | count digits =>
          rw [Argument.apply] at happly
          cases hn : Numeral.ofDigits digits with
          | ok n =>
            rw [hn] at happly
            cases happly
          | error refusal' =>
            rw [hn] at happly
            cases happly
            exact Numeral.ofDigits_eq_error hn

end HistoryArguments

/-! ## Lines -/

namespace Line

/-- A line that is read holds no number that is too long. -/
theorem readable_of_read {line : String} {meaning : Line} (h : read line = .ok meaning) :
    Readable line := by
  intro arguments hcommand
  rcases read_eq_ok_iff.mp h with ⟨hnone, -⟩ | ⟨command, hsome, hmeans⟩
  · rw [hcommand] at hnone
    cases hnone
  · cases hcommand.symm.trans hsome
    cases hmeans with
    | history read => exact HistoryArguments.length_le_of_readWords_ok read

/-- A line that asks for a number of messages with too many digits is refused. -/
theorem read_of_long {number : String} (id : IsNumber number)
    (long : Numeral.limit < number.length) :
    read ("!discord history " ++ number) = .error (.tooLong number.length) := by
  have hcommand :
      Command.ofLine? ("!discord history " ++ number) = some (.history (" " ++ number)) := by
    have hsplit : "!discord history " ++ number = "!discord history" ++ (" " ++ number) := by
      rw [← String.append_assoc]
      rfl
    rw [hsplit]
    exact Command.ofLine?_history (isLine_append.mpr ⟨by decide, id.isLine⟩)
  have hwords : words (" " ++ number).toList = [number.toList] := by
    rw [String.toList_append]
    exact (words_blank (by decide) _).trans (words_of_no_blank id.toList_ne_nil id.no_blank)
  have hnumber : Numeral.ofDigits number.toList = .error (.tooLong number.length) := by
    rw [← String.length_toList] at long ⊢
    exact if_pos long
  simp only [read, hcommand, ofCommand, HistoryArguments.read, hwords,
    HistoryArguments.readWords_cons (HistoryArguments.of?_count id),
    HistoryArguments.Argument.apply, hnumber, Except.map, Except.bind]

/-- A line is refused only for a number that is too long. -/
theorem isTooLong_of_read {line : String} {refusal : Numeral.Refusal}
    (h : read line = .error refusal) : Numeral.IsTooLong refusal := by
  unfold read at h
  cases hcommand : Command.ofLine? line with
  | none =>
    rw [hcommand] at h
    cases h
  | some command =>
    rw [hcommand] at h
    cases command with
    | history arguments =>
      cases hread : HistoryArguments.read arguments with
      | ok request =>
        simp only [ofCommand, hread] at h
        cases h
      | error refusal' =>
        simp only [ofCommand, hread] at h
        cases h
        exact HistoryArguments.isTooLong_of_readWords_error hread
    | sendTo channel content =>
      simp only [ofCommand] at h
      split at h <;> cases h
    | send content =>
      simp only [ofCommand] at h
      split at h <;> cases h
    | nop | reaction _ _ _ | delete _ | exec _ | media _ | reactions _ => cases h

end Line

/-! ## Texts -/

namespace Response

/-- Outside its heredocs no line of the text holds a number that is too long. -/
def Legible (text : String) : Prop :=
  ∀ before line after, splitLines text = before ++ line :: after →
    (Heredoc.closed.after before).opener = none → Line.Readable line

/-- A line gives its directives unless it stands outside a heredoc and cannot be read. -/
theorem given_ok_iff (h : Heredoc) (line : String) :
    (∃ ds, given h line = .ok ds) ↔ (h.opener = none → Line.Readable line) := by
  unfold given
  cases h.opener with
  | some o => exact ⟨fun _ hopen => absurd hopen (Option.some_ne_none o), fun _ => ⟨_, rfl⟩⟩
  | none =>
    constructor
    · rintro ⟨ds, hds⟩ -
      cases hread : Line.read line with
      | ok meaning => exact Line.readable_of_read hread
      | error refusal =>
        rw [hread] at hds
        cases hds
    · intro hreadable
      obtain ⟨meaning, hread⟩ := (hreadable rfl).read
      rw [hread]
      exact ⟨_, rfl⟩

/-- Lines are scanned unless one of them stands outside a heredoc and cannot be read. -/
theorem scan_ok_iff (h : Heredoc) (ls : List String) :
    (∃ ds, scan h ls = .ok ds) ↔ ∀ before line after, ls = before ++ line :: after →
      (h.after before).opener = none → Line.Readable line := by
  induction ls generalizing h with
  | nil =>
    refine ⟨fun _ before line after hsplit => ?_, fun _ => ⟨[], rfl⟩⟩
    exact absurd hsplit.symm (by simp)
  | cons first rest ih =>
    -- Both the first line and the others have to be read.
    have hstep : (∃ ds, scan h (first :: rest) = .ok ds) ↔
        (∃ ds, given h first = .ok ds) ∧ ∃ ds, scan (h.pass first) rest = .ok ds := by
      rw [scan]
      cases given h first with
      | error refusal =>
        constructor
        · rintro ⟨ds, ⟨⟩⟩
        · rintro ⟨⟨ds, ⟨⟩⟩, -⟩
      | ok ds =>
        cases scan (h.pass first) rest with
        | error refusal =>
          constructor
          · rintro ⟨ds', ⟨⟩⟩
          · rintro ⟨-, ds', ⟨⟩⟩
        | ok ds' => exact ⟨fun _ => ⟨⟨ds, rfl⟩, ds', rfl⟩, fun _ => ⟨ds ++ ds', rfl⟩⟩
    rw [hstep, given_ok_iff, ih]
    constructor
    · rintro ⟨hfirst, hrest⟩ before line after hsplit hclosed
      cases before with
      | nil =>
        cases hsplit
        exact hfirst hclosed
      | cons b bs =>
        cases hsplit
        exact hrest bs line after rfl hclosed
    · intro hall
      exact ⟨hall [] first rest rfl, fun before line after hsplit =>
        hall (first :: before) line after (congrArg (first :: ·) hsplit)⟩

/-- Lines are refused only for a number that is too long. -/
theorem isTooLong_of_scan {h : Heredoc} {ls : List String} {refusal : Numeral.Refusal}
    (hscan : scan h ls = .error refusal) : Numeral.IsTooLong refusal := by
  induction ls generalizing h with
  | nil => cases hscan
  | cons first rest ih =>
    rw [scan] at hscan
    cases hgiven : given h first with
    | ok ds =>
      rw [hgiven] at hscan
      cases hrest : scan (h.pass first) rest with
      | ok ds' =>
        simp only [Except.bind, hrest] at hscan
        cases hscan
      | error refusal' =>
        simp only [Except.bind, hrest] at hscan
        cases hscan
        exact ih hrest
    | error refusal' =>
      rw [hgiven] at hscan
      cases hscan
      unfold given at hgiven
      split at hgiven
      · cases hgiven
      · cases hread : Line.read first with
        | ok meaning =>
          rw [hread] at hgiven
          cases hgiven
        | error refusal' =>
          rw [hread] at hgiven
          cases hgiven
          exact Line.isTooLong_of_read hread

/-- A text is read if and only if it is legible. -/
theorem read_ok_iff (text : String) :
    (∃ ds, (read text).directives = .ok ds) ↔ Legible text := by
  unfold Legible
  rw [← scan_ok_iff, read, directives_ofLines]
  cases scan .closed (splitLines text) with
  | error refusal =>
    constructor
    · rintro ⟨ds, ⟨⟩⟩
    · rintro ⟨ds, ⟨⟩⟩
  | ok ds => exact ⟨fun _ => ⟨ds, rfl⟩, fun _ => ⟨_, rfl⟩⟩

/-- **A text is refused for a number that is too long, and for nothing else.** It gives directives
if and only if outside its heredocs no line of it is a history command with a number of more than
the most digits, and such a number is the reason of every refusal. The work on a text of the agent
fails if and only if the text is refused, with the same reason. -/
theorem refused_iff (text : String) :
    ((∃ ds, (read text).directives = .ok ds) ↔ Legible text) ∧
    (∀ refusal, (read text).directives = .error refusal → Numeral.IsTooLong refusal) ∧
    ∀ place os verdict, (Conversation.carryOut place text).Plays os verdict →
      ((∃ question, verdict = .ok question) ↔ Legible text) ∧
      ∀ failure, verdict = .error failure →
        ∃ refusal, (read text).directives = .error refusal ∧ failure = .numeral refusal := by
  refine ⟨read_ok_iff text, fun refusal hrefusal => ?_, fun place os verdict hplay => ?_⟩
  · rw [read, directives_ofLines] at hrefusal
    cases hscan : scan .closed (splitLines text) with
    | ok ds =>
      rw [hscan] at hrefusal
      cases hrefusal
    | error refusal' =>
      rw [hscan] at hrefusal
      cases hrefusal
      exact isTooLong_of_scan hscan
  · have hverdict : verdict = (read text).verdict :=
      hplay.yields (Conversation.yields_carryOut place text)
    rw [hverdict, ← read_ok_iff, Response.verdict]
    cases (read text).directives with
    | ok ds =>
      refine ⟨⟨fun _ => ⟨ds, rfl⟩, fun _ => ⟨_, rfl⟩⟩, fun failure hfailure => ?_⟩
      cases hfailure
    | error refusal =>
      refine ⟨⟨?_, ?_⟩, fun failure hfailure => ⟨refusal, rfl, ?_⟩⟩
      · rintro ⟨question, ⟨⟩⟩
      · rintro ⟨ds, ⟨⟩⟩
      · cases hfailure
        rfl

/-- A history command for a number of messages with too many digits is refused. -/
theorem read_history_of_long {number : String} (id : IsNumber number)
    (long : Numeral.limit < number.length) :
    (read ("!discord history " ++ number)).directives = .error (.tooLong number.length) := by
  have hlines : splitLines ("!discord history " ++ number) = ["!discord history " ++ number] :=
    splitLines_of_isLine (isLine_append.mpr ⟨by decide, id.isLine⟩)
  rw [read, hlines, directives_ofLines, scan, given]
  simp only [Heredoc.closed, Line.read_of_long id long]
  rfl

/-- A number that has one digit too many. -/
def longNumber : String := String.ofList (List.replicate (Numeral.limit + 1) '9')

/-- The long number has one digit more than can be read. -/
theorem longNumber_length : longNumber.length = Numeral.limit + 1 := by
  rw [longNumber, String.length_ofList, List.length_replicate]

/-- The long number consists of digits. -/
theorem isNumber_longNumber : IsNumber longNumber := by
  refine isNumber_ofList_iff.mpr ⟨by simp, fun c hc => ?_⟩
  rw [List.eq_of_mem_replicate hc]
  decide

/-- Not every text is read: a history command with a number that has one digit too many is
not. -/
theorem not_read_longNumber :
    (read ("!discord history " ++ longNumber)).directives =
        .error (.tooLong (Numeral.limit + 1)) ∧
      ¬∀ text, ∃ ds, (read text).directives = .ok ds := by
  have hrefused := read_history_of_long isNumber_longNumber
    (longNumber_length ▸ Nat.lt_succ_self _)
  rw [longNumber_length] at hrefused
  refine ⟨hrefused, fun hall => ?_⟩
  obtain ⟨ds, hds⟩ := hall ("!discord history " ++ longNumber)
  rw [hrefused] at hds
  cases hds

end Response

end ChatRelay
