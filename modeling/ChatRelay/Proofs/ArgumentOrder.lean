import ChatRelay.Proofs.Writing

/-!
# History arguments in any order

The arguments of a history command are words with blanks between them (`Text.Spaced`). A word
counts when it is a run of digits, a mention `<#digits>` of a channel, or `offset:digits`, and no
word is of two kinds (`Kind.eq_of_digits?`).

One word changes only what its kind is about, and leaves alone what the words of the other kinds
said (`readWord_eq`). So each kind is read by itself: the last word of it counts, whatever stands
between the words of the kind (`readWords_eq`), and it does not matter how the words of different
kinds are mixed.

The main statement is `HistoryArguments.read_by_kind`.
-/

namespace ChatRelay

open Reader Text

namespace Text

/-! ## Words and the blanks between them -/

/-- A text with these words: any blanks stand before and behind them, and one or more between two of
them. -/
inductive Spaced : List (List Char) → List Char → Prop where
  | nil : Spaced [] []
  | blank {ws : List (List Char)} {cs : List Char} {c : Char} (blank : isBlank c = true)
      (rest : Spaced ws cs) : Spaced ws (c :: cs)
  | word {ws : List (List Char)} {w cs : List Char} (nonempty : w ≠ [])
      (no_blank : ∀ c ∈ w, isBlank c = false)
      (ends : ∀ c, cs.head? = some c → isBlank c = true) (rest : Spaced ws cs) :
      Spaced (w :: ws) (w ++ cs)

/-- The words of a text are those with which it was put together. -/
theorem words_of_spaced {ws : List (List Char)} {cs : List Char} (h : Spaced ws cs) :
    words cs = ws := by
  induction h with
  | nil => rfl
  | blank hblank _ ih => rw [words_blank hblank, ih]
  | @word ws w cs hne hw hends hrest ih =>
    cases cs with
    | nil =>
      have hnone : ws = [] := ih.symm
      rw [List.append_nil, words_of_no_blank hne hw, hnone]
    | cons c cs =>
      have hc : isBlank c = true := hends c rfl
      rw [words_append hne hw hc, ← words_blank hc, ih]

/-- No word has a blank in it. -/
theorem Spaced.no_blank {ws : List (List Char)} {cs : List Char} (h : Spaced ws cs) :
    ∀ w ∈ ws, ∀ c ∈ w, isBlank c = false := by
  induction h with
  | nil => exact nofun
  | blank _ _ ih => exact ih
  | word _ hw _ _ ih => exact List.forall_mem_cons.mpr ⟨hw, ih⟩

/-- Every text is its words with blanks between them. -/
theorem spaced_words (cs : List Char) : Spaced (words cs) cs := by
  induction hn : cs.length using Nat.strongRecOn generalizing cs with
  | ind n ih =>
    cases cs with
    | nil => exact .nil
    | cons c cs =>
      cases hc : isBlank c with
      | true =>
        rw [words_blank hc]
        exact .blank hc (ih cs.length (hn ▸ Nat.lt_succ_self _) cs rfl)
      | false =>
        -- The first word goes to the next blank, or to the end.
        have hsplit : (c :: cs).takeWhile (!isBlank ·) ++ (c :: cs).dropWhile (!isBlank ·) =
            c :: cs := List.takeWhile_append_dropWhile
        have hne : (c :: cs).takeWhile (!isBlank ·) ≠ [] := by simp [hc]
        have hw : ∀ d ∈ (c :: cs).takeWhile (!isBlank ·), isBlank d = false :=
          no_blank_of_all List.all_takeWhile
        cases hrest : (c :: cs).dropWhile (!isBlank ·) with
        | nil =>
          rw [hrest, List.append_nil] at hsplit
          rw [hsplit] at hne hw
          have hword : Spaced [c :: cs] ((c :: cs) ++ []) := .word hne hw nofun .nil
          rw [List.append_nil] at hword
          rwa [words_of_no_blank hne hw]
        | cons b more =>
          rw [hrest] at hsplit
          have hb : isBlank b = true := by
            have hfirst := List.head?_dropWhile_not (!isBlank ·) (c :: cs)
            rw [hrest] at hfirst
            exact (Bool.not_eq_false' _).mp hfirst
          have hshort : more.length < n := by
            rw [← hn, ← hsplit, List.length_append, List.length_cons]
            omega
          have hmore : Spaced (words more) (b :: more) := .blank hb (ih _ hshort more rfl)
          rw [← hsplit, words_append hne hw hb]
          refine .word hne hw (fun d hd => ?_) hmore
          exact Option.some.inj hd ▸ hb

/-- A text is put together from these words exactly where they are its words. -/
theorem spaced_iff {ws : List (List Char)} {cs : List Char} : Spaced ws cs ↔ words cs = ws :=
  ⟨words_of_spaced, fun h => h ▸ spaced_words cs⟩

end Text

namespace HistoryArguments

/-! ## Kinds of words -/

/-- The kinds of words that count. -/
inductive Kind where
  | count
  | channel
  | offset
  deriving DecidableEq, Repr

namespace Kind

/-- What stands before the digits of a word. -/
def opening : Kind → String
  | count => ""
  | channel => "<#"
  | offset => "offset:"

/-- What stands behind the digits of a word. -/
def closing : Kind → String
  | channel => ">"
  | count | offset => ""

/-- The word of a kind with these digits. -/
def word (k : Kind) (digits : List Char) : List Char :=
  k.opening.toList ++ (digits ++ k.closing.toList)

/-- The digits of a word of a kind. -/
def digits? (k : Kind) (w : List Char) : Option (List Char) :=
  let digits := (w.drop k.opening.length).take (w.length - (k.opening.length + k.closing.length))
  if digits ≠ [] ∧ digits.all isDecimal = true ∧ w = k.word digits then some digits else none

/-- Whether a word is of a kind. -/
def fits (k : Kind) (w : List Char) : Bool := (k.digits? w).isSome

variable {k k' : Kind} {w digits digits' : List Char}

/-- The word of a count is its digits. -/
theorem word_count (digits : List Char) : count.word digits = digits := by
  simp [word, opening, closing]

/-- The word of an offset has its keyword before the digits. -/
theorem word_offset (digits : List Char) :
    offset.word digits = "offset:".toList ++ digits := by
  simp [word, opening, closing]

/-- A word is as long as its digits with what stands before and behind them. -/
theorem length_word (k : Kind) (digits : List Char) :
    (k.word digits).length = k.opening.length + (digits.length + k.closing.length) := by
  simp only [word, List.length_append, String.length_toList]

/-- A word of a kind is one or more digits with what stands before and behind them. -/
theorem digits?_eq_some_iff :
    k.digits? w = some digits ↔ IsNumber (String.ofList digits) ∧ w = k.word digits := by
  rw [isNumber_ofList_iff]
  constructor
  · intro h
    unfold digits? at h
    dsimp only at h
    split at h
    · rename_i hword
      cases h
      exact ⟨⟨hword.1, List.all_eq_true.mp hword.2.1⟩, hword.2.2⟩
    · cases h
  · rintro ⟨⟨hne, hdigits⟩, rfl⟩
    have hmiddle : ((k.word digits).drop k.opening.length).take
        ((k.word digits).length - (k.opening.length + k.closing.length)) = digits := by
      have hlength : (k.word digits).length - (k.opening.length + k.closing.length) =
          digits.length := by
        rw [length_word]
        omega
      rw [hlength, word, List.drop_left' String.length_toList, List.take_left]
    simp only [digits?, hmiddle]
    exact if_pos ⟨hne, List.all_eq_true.mpr hdigits, trivial⟩

/-- The kind that a word with this first character can be of. -/
def ofFirst? (c : Char) : Option Kind :=
  if isDecimal c then some count
  else if c = '<' then some channel
  else if c = 'o' then some offset
  else none

/-- The first character of a word of a kind tells the kind. -/
theorem ofFirst?_of_digits? (h : k.digits? w = some digits) :
    w.head?.bind ofFirst? = some k := by
  obtain ⟨hnumber, rfl⟩ := digits?_eq_some_iff.mp h
  obtain ⟨hne, hdigits⟩ := isNumber_ofList_iff.mp hnumber
  cases k with
  | count =>
    obtain ⟨c, rest, rfl⟩ := List.exists_cons_of_ne_nil hne
    exact if_pos (hdigits c List.mem_cons_self)
  | channel =>
    have hfirst : ofFirst? '<' = some channel := by decide
    exact hfirst
  | offset =>
    have hfirst : ofFirst? 'o' = some offset := by decide
    exact hfirst

/-- No word is of two kinds: the first character tells them apart. -/
theorem eq_of_digits? (h : k.digits? w = some digits) (h' : k'.digits? w = some digits') :
    k = k' :=
  Option.some.inj ((ofFirst?_of_digits? h).symm.trans (ofFirst?_of_digits? h'))

end Kind

/-! ## One word -/

section Words

variable {w digits : List Char}

/-- On one line the reader of offsets takes exactly the words of that kind. -/
theorem offset?_eq (hline : '\n' ∉ w) : offset? w = Kind.offset.digits? w := by
  ext digits
  rw [Kind.digits?_eq_some_iff]
  constructor
  · intro h
    obtain ⟨rest, hkeyword, hlast⟩ := Option.bind_eq_some_iff.mp h
    have hsplit := keyword?_split hkeyword
    have hrest : '\n' ∉ rest := fun hmem => hline (hsplit ▸ List.mem_append_right _ hmem)
    obtain ⟨hnumber, rfl⟩ := lastDigits?_split hrest hlast
    exact ⟨hnumber, by rw [hsplit, Kind.word_offset]⟩
  · rintro ⟨hnumber, rfl⟩
    have hlast := hnumber.lastDigits?_toList
    rw [String.toList_ofList] at hlast
    rw [offset?, Kind.word_offset, keyword?_append]
    exact hlast

/-- On one line the reader of mentions takes exactly the words of that kind. -/
theorem mention?_eq (hline : '\n' ∉ w) : Reference.mention? w = Kind.channel.digits? w := by
  ext digits
  rw [Kind.digits?_eq_some_iff]
  constructor
  · intro h
    obtain ⟨rest, hopening, h⟩ := Option.bind_eq_some_iff.mp h
    obtain ⟨read, hdigits, h⟩ := Option.bind_eq_some_iff.mp h
    obtain ⟨after, hclosing, h⟩ := Option.bind_eq_some_iff.mp h
    obtain ⟨hnumber, hrest⟩ := digits?_split hdigits
    have hsplit : w = "<#".toList ++ (read.1 ++ (">".toList ++ after)) := by
      rw [keyword?_split hopening, hrest, keyword?_split hclosing]
    split at h
    · rename_i hend
      cases h
      have hafter : after = [] := eq_nil_of_isLineEnd hend fun hmem => hline <| by
        rw [hsplit]
        simp [hmem]
      exact ⟨hnumber, by rw [hsplit, hafter, List.append_nil]; rfl⟩
    · cases h
  · rintro ⟨hnumber, rfl⟩
    have hmention := Reference.mention?_written hnumber
    rw [@String.toList_ofList digits] at hmention
    exact hmention

/-- On one line the reader of counts takes exactly the words of that kind. -/
theorem lastDigits?_eq (hline : '\n' ∉ w) : lastDigits? w = Kind.count.digits? w := by
  ext digits
  rw [Kind.digits?_eq_some_iff]
  constructor
  · intro h
    obtain ⟨hnumber, rfl⟩ := lastDigits?_split hline h
    exact ⟨hnumber, (Kind.word_count w).symm⟩
  · rintro ⟨hnumber, rfl⟩
    have hlast := hnumber.lastDigits?_toList
    rw [String.toList_ofList] at hlast
    rwa [Kind.word_count]

/-- The kind that a word is of, with its digits. -/
theorem of?_eq (hline : '\n' ∉ w) : Argument.of? w =
    ((Kind.offset.digits? w).map .offset).or
      (((Kind.channel.digits? w).map .channel).or ((Kind.count.digits? w).map .count)) := by
  rw [Argument.of?, offset?_eq hline, mention?_eq hline, lastDigits?_eq hline]

/-- The number of a word is short enough to be read. -/
def IsShort (w : List Char) : Prop :=
  ∀ k : Kind, k ≠ .channel → ∀ digits, k.digits? w = some digits → digits.length ≤ Numeral.limit

/-- A word with no more characters than digits are read is short enough. -/
theorem isShort_of_length (h : w.length ≤ Numeral.limit) : IsShort w := by
  intro k _ digits hdigits
  have hword := k.length_word digits
  rw [← (Kind.digits?_eq_some_iff.mp hdigits).2] at hword
  omega

/-- The digits of the last word of a kind. -/
def last? (k : Kind) (ws : List (List Char)) : Option (List Char) :=
  (ws.filterMap k.digits?).getLast?

/-- A request, changed by the last word of each kind. -/
def applied (request : HistoryRequest) (ws : List (List Char)) : HistoryRequest where
  count := ((last? .count ws).map fun digits =>
    ((min (decimalValue digits) maxCount : Nat) : Int)).getD request.count
  channel := ((last? .channel ws).map String.ofList).or request.channel
  offset := ((last? .offset ws).map fun digits => (decimalValue digits : Int)).getD request.offset

/-- A word counts as the last one of its kind only where none follows. -/
theorem last?_cons (k : Kind) (w : List Char) (ws : List (List Char)) :
    last? k (w :: ws) = (last? k ws).or (k.digits? w) := by
  unfold last?
  cases h : k.digits? w with
  | none => rw [List.filterMap_cons_none h, Option.or_none]
  | some digits =>
    rw [List.filterMap_cons_some h, List.getLast?_cons]
    cases (ws.filterMap k.digits?).getLast? <;> rfl

/-- A word alone is the last one of its kind. -/
theorem last?_singleton (k : Kind) (w : List Char) : last? k [w] = k.digits? w := by
  rw [last?_cons]
  rfl

/-- The words behind the first one change what the first one has changed. -/
theorem applied_cons (request : HistoryRequest) (w : List Char) (ws : List (List Char)) :
    applied request (w :: ws) = applied (applied request [w]) ws := by
  simp only [applied, last?_cons, HistoryRequest.mk.injEq]
  refine ⟨?_, ?_, ?_⟩
  · cases last? .count ws <;> rfl
  · cases last? .channel ws <;> rfl
  · cases last? .offset ws <;> rfl

/-- Digits that are few enough are read. -/
theorem ofDigits_of_short {digits : List Char} (h : digits.length ≤ Numeral.limit) :
    Numeral.ofDigits digits = .ok (decimalValue digits) :=
  if_neg (Nat.not_lt.mpr h)

/-- **One word changes only what its kind is about.** -/
theorem readWord_eq (hline : '\n' ∉ w) (hshort : IsShort w) (request : HistoryRequest) :
    (match Argument.of? w with
      | none => Except.ok request
      | some argument => argument.apply request) = .ok (applied request [w]) := by
  -- A word of one kind is of no other, so what the other kinds are about is left alone.
  have hother : ∀ {k : Kind} {digits}, k.digits? w = some digits →
      ∀ k' ≠ k, k'.digits? w = none := by
    intro k digits h k' hne
    cases h' : k'.digits? w with
    | none => rfl
    | some digits' => exact absurd (Kind.eq_of_digits? h' h) hne
  rw [of?_eq hline]
  simp only [applied, last?_singleton]
  cases hoffset : Kind.offset.digits? w with
  | some digits =>
    have hcount := hother hoffset .count (by decide)
    have hchannel := hother hoffset .channel (by decide)
    have hnumber := ofDigits_of_short (hshort .offset (by decide) digits hoffset)
    simp only [hcount, hchannel, Option.map_some, Option.map_none, Option.some_or, Argument.apply,
      hnumber, Except.map]
    rfl
  | none =>
    cases hchannel : Kind.channel.digits? w with
    | some digits =>
      have hcount := hother hchannel .count (by decide)
      simp only [hcount, Option.map_some, Option.map_none, Option.some_or, Option.none_or,
        Argument.apply]
      rfl
    | none =>
      cases hcount : Kind.count.digits? w with
      | some digits =>
        have hnumber := ofDigits_of_short (hshort .count (by decide) digits hcount)
        simp only [Option.map_some, Option.map_none, Option.none_or, Argument.apply, hnumber,
          Except.map]
        rfl
      | none => rfl

/-- **Each kind of words is read by itself.** -/
theorem readWords_eq {ws : List (List Char)} (hlines : ∀ w ∈ ws, '\n' ∉ w)
    (hshort : ∀ w ∈ ws, IsShort w) (request : HistoryRequest) :
    readWords request ws = .ok (applied request ws) := by
  induction ws generalizing request with
  | nil => rfl
  | cons w ws ih =>
    obtain ⟨hline, hlines⟩ := List.forall_mem_cons.mp hlines
    obtain ⟨hw, hshort⟩ := List.forall_mem_cons.mp hshort
    have hstep := readWord_eq hline hw request
    have hrest := ih hlines hshort (applied request [w])
    rw [applied_cons, ← hrest, readWords]
    cases hof : Argument.of? w with
    | none =>
      rw [hof] at hstep
      have hsame : request = applied request [w] := Except.ok.inj hstep
      exact congrArg (readWords · ws) hsame
    | some argument =>
      rw [hof] at hstep
      dsimp only at hstep ⊢
      rw [hstep]
      rfl

end Words

/-! ## All words -/

/-- The words of each kind are the same, and in the same order. This is so where words are put into
another order that keeps the order of the words of each kind, and where words of no kind are added
or taken away. -/
def SameByKind (ws ws' : List (List Char)) : Prop :=
  ∀ k : Kind, ws.filter k.fits = ws'.filter k.fits

section SameByKind

variable {ws ws' : List (List Char)}

/-- The last word of each kind is the same. -/
theorem SameByKind.last?_eq (h : SameByKind ws ws') (k : Kind) : last? k ws = last? k ws' := by
  have hfilter : ∀ ws : List (List Char), ws.filterMap k.digits? =
      (ws.filter k.fits).filterMap k.digits? := by
    intro ws
    rw [List.filterMap_filter]
    refine List.filterMap_congr fun w _ => ?_
    cases hdigits : k.digits? w <;> simp [Kind.fits, hdigits]
  rw [last?, last?, hfilter ws, hfilter ws', h k]

/-- Words that are the same by kind are short enough alike. -/
theorem SameByKind.isShort (h : SameByKind ws ws') (hshort : ∀ w ∈ ws, IsShort w) :
    ∀ w ∈ ws', IsShort w := by
  intro w hw k hk digits hdigits
  have hfits : k.fits w = true := Option.isSome_of_eq_some hdigits
  have hmem : w ∈ ws.filter k.fits := by
    rw [h k]
    exact List.mem_filter.mpr ⟨hw, hfits⟩
  exact hshort w (List.mem_filter.mp hmem).1 k hk digits hdigits

end SameByKind

/-- **The order of history arguments matters only within a kind.** Whatever blanks stand between the
words, the last number counts up to the most messages that can be asked for, and the last mention
and the last offset count; without one of a kind there are ten messages, no channel and no offset.
So words with the same ones of each kind, in the same order, are read as the same request, and no
word is of two kinds. -/
theorem read_by_kind {ws : List (List Char)} {arguments : String}
    (hspaced : Spaced ws arguments.toList) (hshort : ∀ w ∈ ws, IsShort w) :
    read arguments = .ok {
      count := ((last? .count ws).map fun digits =>
        ((min (decimalValue digits) 100 : Nat) : Int)).getD 10
      channel := (last? .channel ws).map String.ofList
      offset := ((last? .offset ws).map fun digits => (decimalValue digits : Int)).getD 0 } ∧
    (∀ ws' (arguments' : String), Spaced ws' arguments'.toList → SameByKind ws ws' →
      read arguments' = read arguments) ∧
    ∀ (w : List Char) (k k' : Kind), k.fits w = true → k'.fits w = true → k = k' := by
  have hread : ∀ {ws : List (List Char)} {arguments : String}, Spaced ws arguments.toList →
      (∀ w ∈ ws, IsShort w) → read arguments = .ok (applied {} ws) := by
    intro ws arguments hspaced hshort
    have hlines : ∀ w ∈ ws, '\n' ∉ w := fun w hw hmem =>
      absurd (hspaced.no_blank w hw _ hmem) (by decide)
    rw [read, words_of_spaced hspaced, readWords_eq hlines hshort]
  refine ⟨?_, fun ws' arguments' hspaced' hsame => ?_, fun w k k' hk hk' => ?_⟩
  · rw [hread hspaced hshort, applied, Option.or_none]
    rfl
  · rw [hread hspaced hshort, hread hspaced' (hsame.isShort hshort)]
    simp only [applied, hsame.last?_eq]
  · obtain ⟨digits, hdigits⟩ := Option.isSome_iff_exists.mp hk
    obtain ⟨digits', hdigits'⟩ := Option.isSome_iff_exists.mp hk'
    exact Kind.eq_of_digits? hdigits hdigits'

/-- A number in the digits of another script is the last of its kind wherever the mention, the
offset and the words of no kind stand. -/
theorem read_by_kind_mixed :
    let ws := ["5", "<#7>", "x", "offset:3", "٣٠"].map String.toList
    let ws' := ["offset:3", "5", "٣٠", "<#7>"].map String.toList
    let arguments := "\t5 <#7>  x\noffset:3\u2003٣٠ "
    let arguments' := "offset:3 5 ٣٠ <#7>"
    Spaced ws arguments.toList ∧ (∀ w ∈ ws, IsShort w) ∧ Spaced ws' arguments'.toList ∧
      SameByKind ws ws' ∧
      read arguments = .ok { count := 30, channel := some "7", offset := 3 } ∧
      read arguments' = .ok { count := 30, channel := some "7", offset := 3 } := by
  intro ws ws' arguments arguments'
  have hspaced : Spaced ws arguments.toList := spaced_iff.mpr (by decide)
  have hspaced' : Spaced ws' arguments'.toList := spaced_iff.mpr (by decide)
  have hshort : ∀ w ∈ ws, IsShort w := by
    have hlength : ∀ w ∈ ws, w.length ≤ Numeral.limit := by decide
    exact fun w hw => isShort_of_length (hlength w hw)
  have hsame : SameByKind ws ws' := by
    intro k
    cases k <;> decide
  obtain ⟨hread, hreordered, -⟩ := read_by_kind hspaced hshort
  have hvalue : read arguments = .ok { count := 30, channel := some "7", offset := 3 } := by
    rw [hread]
    decide
  exact ⟨hspaced, hshort, hspaced', hsame, hvalue,
    (hreordered ws' arguments' hspaced' hsame).trans hvalue⟩

end HistoryArguments

end ChatRelay
