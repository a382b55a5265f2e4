import ChatRelay.Proofs.Opener
import Mathlib.Data.List.Basic
import Mathlib.Data.List.TakeWhile

/-!
# Words and numbers of a line

How the pieces of a command line are read that are written with single blanks between them: a word
is read back where a blank or the end follows it (`words_append`), a number where no digit follows
it (`digits?_append`), and the digits of a number give the number back (`decimalValue_toDigits`).
-/

namespace ChatRelay

namespace Text

/-! ## Digits -/

/-- A decimal digit stands in the group of ten that a zero begins. -/
theorem exists_zero_of_isDecimal {c : Char} (h : isDecimal c = true) :
    ∃ z ∈ 0x30 :: decimalZeros, z ≤ c.toNat ∧ c.toNat ≤ z + 9 := by
  unfold isDecimal digitValue? at h
  by_cases hascii : c.toNat < 0x80
  · rw [if_pos hascii] at h
    split at h
    · rename_i hdigit
      simp only [Bool.and_eq_true, decide_eq_true_eq] at hdigit
      exact ⟨0x30, List.mem_cons_self, hdigit⟩
    · cases h
  · rw [if_neg hascii, Option.isSome_map, List.find?_isSome] at h
    obtain ⟨z, hz, hrange⟩ := h
    simp only [Bool.and_eq_true, decide_eq_true_eq] at hrange
    exact ⟨z, List.mem_cons_of_mem _ hz, hrange⟩

/-- The groups of digits and the runs of blanks lie apart. -/
theorem digits_apart_from_blanks :
    ∀ z ∈ 0x30 :: decimalZeros, ∀ run ∈ blankRanges, run.2 < z ∨ z + 9 < run.1 := by
  decide

/-- No digit is a blank. -/
theorem isBlank_of_isDecimal {c : Char} (h : isDecimal c = true) : isBlank c = false := by
  obtain ⟨z, hz, hlow, hhigh⟩ := exists_zero_of_isDecimal h
  rw [Bool.eq_false_iff]
  intro hblank
  obtain ⟨run, hrun, hfirst, hlast⟩ := (Ranges.contains_iff _ _).mp hblank
  rcases digits_apart_from_blanks z hz run hrun with hapart | hapart <;> omega

/-- Characters that are all found not to be blank. -/
theorem no_blank_of_all {cs : List Char} (h : cs.all (!isBlank ·) = true) :
    ∀ c ∈ cs, isBlank c = false := by
  intro c hc
  exact (Bool.not_eq_true' _).mp (List.all_eq_true.mp h c hc)

/-- A text without blanks is a line. -/
theorem isLine_of_no_blank {s : String} (h : ∀ c ∈ s.toList, isBlank c = false) : IsLine s :=
  fun hmem => absurd (h _ hmem) (by decide)

/-- The value of an ASCII digit. -/
theorem digitValue?_of_isDigit {c : Char} (h : c.isDigit = true) :
    digitValue? c = some (c.toNat - '0'.toNat) := by
  simp only [Char.isDigit, Bool.and_eq_true, decide_eq_true_eq, ge_iff_le,
    UInt32.le_iff_toNat_le] at h
  have hlow : 48 ≤ c.toNat := h.1
  have hhigh : c.toNat ≤ 57 := h.2
  have hascii : c.toNat < 128 := by omega
  simp [digitValue?, hascii, hlow, hhigh]

/-- The digits of a number have the value of the number. -/
theorem decimalValue_toDigits (n : Nat) : decimalValue (Nat.toDigits 10 n) = n := by
  have hvalue : decimalValue (Nat.toDigits 10 n) = Nat.ofDigitChars 10 (Nat.toDigits 10 n) 0 := by
    rw [Nat.ofDigitChars_eq_foldl, decimalValue]
    refine List.foldl_ext _ _ _ fun value c hc => ?_
    rw [digitValue?_of_isDigit (Nat.isDigit_of_mem_toDigits (by decide) (by decide) hc),
      Option.getD_some]
  rw [hvalue, Nat.ofDigitChars_ten_toDigits]

/-! ## Words -/

/-- A blank before a text changes none of its words. -/
theorem words_blank {c : Char} (hc : isBlank c = true) (cs : List Char) :
    words (c :: cs) = words cs := by
  simp only [words, List.foldr_cons, scanWord, hc, if_true, List.isEmpty_nil]

/-- What is scanned of a text that starts with characters that are no blanks. -/
theorem scan_append {w : List Char} (hw : ∀ c ∈ w, isBlank c = false) (cs : List Char) :
    (w ++ cs).foldr scanWord ([], []) =
      (w ++ (cs.foldr scanWord ([], [])).1, (cs.foldr scanWord ([], [])).2) := by
  induction w with
  | nil => rfl
  | cons c w ih =>
    obtain ⟨hc, hw⟩ := List.forall_mem_cons.mp hw
    rw [List.cons_append, List.foldr_cons, ih hw]
    simp only [scanWord, hc, Bool.false_eq_true, if_false, List.cons_append]

/-- A word that a blank follows is the first one of a text. -/
theorem words_append {w : List Char} (hne : w ≠ []) (hw : ∀ c ∈ w, isBlank c = false) {c : Char}
    (hc : isBlank c = true) (cs : List Char) : words (w ++ c :: cs) = w :: words cs := by
  have hscan := scan_append hw (c :: cs)
  have hempty : w.isEmpty = false := List.isEmpty_eq_false_iff.mpr hne
  simp only [List.foldr_cons, scanWord, hc, if_true, List.append_nil] at hscan
  simp only [words, hscan, hempty, Bool.false_eq_true, if_false]

/-- A text without blanks is one word. -/
theorem words_of_no_blank {w : List Char} (hne : w ≠ []) (hw : ∀ c ∈ w, isBlank c = false) :
    words w = [w] := by
  have hscan := scan_append hw []
  have hempty : w.isEmpty = false := List.isEmpty_eq_false_iff.mpr hne
  simp only [List.append_nil, List.foldr_nil] at hscan
  simp only [words, hscan, hempty, Bool.false_eq_true, if_false]

end Text

open Text

namespace Reader

/-! ## Pieces -/

/-- After a blank, what is no blank is left. -/
theorem blanks?_space {c : Char} (h : isBlank c = false) (cs : List Char) :
    blanks? (' ' :: c :: cs) = some (c :: cs) := by
  have hspace : isBlank ' ' = true := by decide
  simp only [blanks?, hspace, if_true, trimStart, List.dropWhile_cons, h]
  rfl

/-- Behind `!discord` and a blank the verb stands. -/
theorem verb?_discord (verb : String) {c : Char} (h : isBlank c = false) (cs : List Char) :
    verb? verb ("!discord ".toList ++ c :: cs) = keyword? verb (c :: cs) := by
  have hkeyword : keyword? "!discord" ("!discord ".toList ++ c :: cs) = some (' ' :: c :: cs) :=
    rfl
  simp only [verb?, hkeyword, Option.bind_some, blanks?_space h]

/-- A line goes to its end. -/
theorem lineRest?_of_isLine {cs : List Char} (h : '\n' ∉ cs) : lineRest? cs = some cs := by
  have hall : ∀ c ∈ cs, (c != '\n') = true := by
    intro c hc
    rw [bne_iff_ne]
    rintro rfl
    exact h hc
  have htake : cs.takeWhile (· != '\n') = cs := List.takeWhile_eq_self_iff.mpr hall
  have hdrop : cs.dropWhile (· != '\n') = [] := List.dropWhile_eq_nil_iff.mpr hall
  simp only [lineRest?, htake, hdrop]
  rfl

/-- An argument after a blank goes to the end of the line. -/
theorem argument?_space {c : Char} (hc : isBlank c = false) {cs : List Char}
    (h : '\n' ∉ c :: cs) : argument? (' ' :: c :: cs) = some (c :: cs) := by
  simp only [argument?, blanks?_space hc, lineRest?_of_isLine h]

/-- A run goes to the first character that is not of its class. -/
theorem run?_append {inClass : Char → Bool} {run : List Char} (hne : run ≠ [])
    (hrun : ∀ c ∈ run, inClass c = true) (rest : List Char)
    (hrest : ∀ c, rest.head? = some c → inClass c = false) :
    run? inClass (run ++ rest) = some (run, rest) := by
  have htake : rest.takeWhile inClass = [] := by
    cases rest with
    | nil => rfl
    | cons c rest => rw [List.takeWhile_cons, hrest c rfl, if_neg Bool.false_ne_true]
  have hdrop : rest.dropWhile inClass = rest := by
    cases rest with
    | nil => rfl
    | cons c rest => rw [List.dropWhile_cons, hrest c rfl, if_neg Bool.false_ne_true]
  have hempty : run.isEmpty = false := List.isEmpty_eq_false_iff.mpr hne
  rw [run?, List.takeWhile_append_of_pos hrun, List.dropWhile_append_of_pos hrun, htake, hdrop,
    List.append_nil, hempty, if_neg Bool.false_ne_true]

/-- A run and what is left after it are what was there. -/
theorem run?_split {inClass : Char → Bool} {cs run rest : List Char}
    (h : run? inClass cs = some (run, rest)) : run ++ rest = cs := by
  unfold run? at h
  split at h
  · cases h
  · cases h
    exact List.takeWhile_append_dropWhile

/-- A run of blanks is read like every other run. -/
theorem blanks?_eq_run? (cs : List Char) : blanks? cs = (run? isBlank cs).map (·.2) := by
  cases cs with
  | nil => rfl
  | cons c cs =>
    cases hc : isBlank c with
    | false => simp [blanks?, run?, hc]
    | true => simp [blanks?, run?, trimStart, hc]

/-- A line without a newline ends where nothing is left of it. -/
theorem eq_nil_of_isLineEnd {cs : List Char} (h : isLineEnd cs = true) (hline : '\n' ∉ cs) :
    cs = [] := by
  unfold isLineEnd at h
  rcases Bool.or_eq_true_iff.mp h with hempty | hnewline
  · exact List.isEmpty_iff.mp hempty
  · rw [beq_iff_eq.mp hnewline] at hline
    exact absurd List.mem_cons_self hline

/-- What stands behind a keyword is left. -/
theorem keyword?_append (word : String) (rest : List Char) :
    keyword? word (word.toList ++ rest) = some rest :=
  List.isPrefixOf?_eq_some_iff_append_eq.mpr rfl

/-- What is left after a keyword stands behind it. -/
theorem keyword?_split {word : String} {cs rest : List Char} (h : keyword? word cs = some rest) :
    cs = word.toList ++ rest :=
  (List.isPrefixOf?_eq_some_iff_append_eq.mp h).symm

/-- A keyword is not read where another character stands first. -/
theorem keyword?_of_first {word : String} {first c : Char} {more cs : List Char}
    (hword : word.toList = first :: more) (hc : c ≠ first) : keyword? word (c :: cs) = none := by
  have hne : (first == c) = false := beq_eq_false_iff_ne.mpr (Ne.symm hc)
  simp only [keyword?, hword, List.isPrefixOf?, hne, Bool.false_eq_true, if_false]

/-- Behind `!discord` and a blank the verb is read, and what follows it is left. -/
theorem verb?_written {verb : String} {c : Char} {cs : List Char} (hverb : verb.toList = c :: cs)
    (hc : isBlank c = false) (rest : List Char) :
    verb? verb ("!discord ".toList ++ (verb.toList ++ rest)) = some rest := by
  have hcons : verb.toList ++ rest = c :: (cs ++ rest) := by rw [hverb, List.cons_append]
  rw [hcons, verb?_discord verb hc, ← hcons, keyword?_append]

end Reader

/-- A number as it is written: one or more decimal digits. -/
structure IsNumber (s : String) : Prop where
  nonempty : s ≠ ""
  digits : ∀ c ∈ s.toList, isDecimal c = true

/-- Characters make up a number where there is one, and all are digits. -/
theorem isNumber_ofList_iff {cs : List Char} :
    IsNumber (String.ofList cs) ↔ cs ≠ [] ∧ ∀ c ∈ cs, isDecimal c = true := by
  constructor
  · rintro ⟨hne, hdigits⟩
    rw [String.toList_ofList] at hdigits
    exact ⟨fun hnil => hne (String.ofList_eq_empty_iff.mpr hnil), hdigits⟩
  · rintro ⟨hne, hdigits⟩
    refine ⟨fun hempty => hne (String.ofList_eq_empty_iff.mp hempty), ?_⟩
    rwa [String.toList_ofList]

namespace IsNumber

variable {s : String} (h : IsNumber s)
include h

/-- A number has a digit. -/
theorem toList_ne_nil : s.toList ≠ [] := fun hnil => h.nonempty (String.toList_eq_nil_iff.mp hnil)

/-- No digit of a number is blank. -/
theorem no_blank : ∀ c ∈ s.toList, isBlank c = false := fun c hc =>
  isBlank_of_isDecimal (h.digits c hc)

/-- A number is read up to the first character that is no digit. -/
theorem digits?_append (rest : List Char)
    (hrest : ∀ c, rest.head? = some c → isDecimal c = false) :
    Reader.digits? (s.toList ++ rest) = some (s.toList, rest) :=
  Reader.run?_append h.toList_ne_nil h.digits rest hrest

/-- A number at the end of a line is read. -/
theorem lastDigits?_toList : Reader.lastDigits? s.toList = some s.toList := by
  have hread := h.digits?_append [] fun c hc => by cases hc
  rw [List.append_nil] at hread
  simp only [Reader.lastDigits?, hread, Option.bind_some]
  rfl

/-- A number is read behind a blank. -/
theorem blanks?_append (rest : List Char) :
    Reader.blanks? (' ' :: (s.toList ++ rest)) = some (s.toList ++ rest) := by
  cases hs : s.toList with
  | nil => exact absurd hs h.toList_ne_nil
  | cons c cs => exact Reader.blanks?_space (h.no_blank c (hs ▸ List.mem_cons_self)) _

/-- No keyword that starts with something else than a digit is read where a number stands. -/
theorem keyword?_append (word : String) {first : Char} {more : List Char}
    (hword : word.toList = first :: more) (hfirst : isDecimal first = false) (rest : List Char) :
    Reader.keyword? word (s.toList ++ rest) = none := by
  cases hs : s.toList with
  | nil => exact absurd hs h.toList_ne_nil
  | cons c cs =>
    have hc : isDecimal c = true := h.digits c (hs ▸ List.mem_cons_self)
    refine Reader.keyword?_of_first hword fun he => ?_
    rw [he, hfirst] at hc
    cases hc

/-- A number is a line. -/
theorem isLine : IsLine s := fun hmem => absurd (h.digits _ hmem) (by decide)

end IsNumber

namespace Reader

/-- A run of digits is a number. -/
theorem digits?_split {cs : List Char} {read : List Char × List Char} (h : digits? cs = some read) :
    IsNumber (String.ofList read.1) ∧ cs = read.1 ++ read.2 :=
  ⟨isNumber_ofList_iff.mpr (run?_sound h), (run?_split h).symm⟩

/-- Digits at the end of a line are a number. -/
theorem isNumber_of_lastDigits? {cs digits : List Char} (h : lastDigits? cs = some digits) :
    IsNumber (String.ofList digits) := by
  obtain ⟨read, hread, h⟩ := Option.bind_eq_some_iff.mp h
  split at h
  · cases h
    exact (digits?_split hread).1
  · cases h

/-- Digits at the end of a line are all that is left of it. -/
theorem lastDigits?_split {cs digits : List Char} (hline : '\n' ∉ cs)
    (h : lastDigits? cs = some digits) : IsNumber (String.ofList digits) ∧ cs = digits := by
  refine ⟨isNumber_of_lastDigits? h, ?_⟩
  obtain ⟨read, hread, h⟩ := Option.bind_eq_some_iff.mp h
  have hsplit : cs = read.1 ++ read.2 := (digits?_split hread).2
  split at h
  · rename_i hend
    cases h
    have hrest : read.2 = [] :=
      eq_nil_of_isLineEnd hend fun hmem => hline (hsplit ▸ List.mem_append_right _ hmem)
    rw [hsplit, hrest, List.append_nil]
  · cases h

end Reader

/-- A number is written with its digits. -/
theorem isNumber_toString (n : Nat) : IsNumber (toString n) := by
  rw [Nat.toString_eq_ofList_toDigits]
  refine isNumber_ofList_iff.mpr ⟨Nat.toDigits_ne_nil, fun c hc => ?_⟩
  exact isDecimal_of_isDigit (Nat.isDigit_of_mem_toDigits (by decide) (by decide) hc)

/-- A number that is not too long is read from its digits. -/
theorem Text.Numeral.ofDigits_toString {n : Nat} (h : (toString n).length ≤ limit) :
    ofDigits (toString n).toList = .ok n := by
  have hshort : ¬limit < (toString n).toList.length := by
    rw [String.length_toList]
    exact Nat.not_lt.mpr h
  rw [ofDigits, if_neg hshort, Nat.toString_eq_ofList_toDigits, String.toList_ofList,
    decimalValue_toDigits]

end ChatRelay
