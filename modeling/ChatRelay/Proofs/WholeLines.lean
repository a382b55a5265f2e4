import ChatRelay.Proofs.Cutting

/-!
# Lines that are not cut

A text in which every line is within the limit can be cut at the ends of its lines only, and it is,
but for one case: where a chunk starts with an empty line and the line behind it has exactly the
limit (`Chunk.EmptyThenFull`). The two do not fit into one chunk, the empty line would be an empty
chunk by itself, and so the text is cut at the limit, one character before the end of the second
line.

The main statement is `Chunk.keepsLines_iff`, and `Chunk.not_keepsLines_emptyThenFull` shows a text
with a line that is cut.
-/

namespace ChatRelay.Chunk

open Text (joinLines lines splitLines unlines)

/-! ## Texts of lines within the limit -/

/-- Every line is within the limit. -/
def Fits (limit : Nat) (cs : List Char) : Prop := ∀ line ∈ lines cs, line.length ≤ limit

/-- A text starts with an empty line, and the line behind it has exactly the limit. -/
def EmptyThenFull (limit : Nat) (cs : List Char) : Prop :=
  ∃ line more, lines cs = [] :: line :: more ∧ line.length = limit

/-- Nowhere in a text an empty line stands before a line that has exactly the limit. -/
def Gapless (limit : Nat) (cs : List Char) : Prop :=
  ∀ before line after, lines cs = before ++ [] :: line :: after → line.length ≠ limit

section Limit

variable {limit : Nat} {cs : List Char}

/-- The first character of a text may be left out. -/
theorem Fits.tail {c : Char} (h : Fits limit (c :: cs)) : Fits limit cs := by
  rw [Fits, Text.lines_cons] at h
  cases hlines : lines cs with
  | nil => exact absurd hlines (Text.lines_ne_nil cs)
  | cons first more =>
    rw [hlines, Text.consLine] at h
    rw [Fits, hlines]
    split at h
    · exact (List.forall_mem_cons.mp h).2
    · obtain ⟨hfirst, hmore⟩ := List.forall_mem_cons.mp h
      rw [List.length_cons] at hfirst
      exact List.forall_mem_cons.mpr ⟨Nat.le_of_succ_le hfirst, hmore⟩

/-- The end of a text fits where the text does. -/
theorem Fits.of_suffix {rest : List Char} (h : Fits limit cs) (hsuffix : rest <:+ cs) :
    Fits limit rest := by
  obtain ⟨before, rfl⟩ := hsuffix
  induction before with
  | nil => exact h
  | cons c before ih => exact ih h.tail

/-- What is left behind a cut is the end of the text. -/
theorem remainder_suffix (limit : Nat) (cs : List Char) : remainder limit cs <:+ cs := by
  refine List.IsSuffix.trans ?_ (List.drop_suffix (cutLength limit cs) cs)
  unfold remainder dropNewline
  split
  · rename_i rest hdrop
    rw [hdrop]
    exact List.suffix_cons _ _
  · exact List.suffix_rfl

/-- What is left of a text fits where the text does. -/
theorem Rest.fits {rest : List Char} (h : Rest limit cs rest) (hcs : Fits limit cs) :
    Fits limit rest := by
  induction h with
  | whole => exact hcs
  | behind _ _ ih => exact ih.of_suffix (remainder_suffix limit _)

/-- No newline behind an empty line is within the limit when the next line has exactly the
limit. -/
theorem EmptyThenFull.no_newline (h : EmptyThenFull limit cs) {j : Nat} (pos : 0 < j)
    (le : j ≤ limit) : cs[j]? ≠ some '\n' := by
  obtain ⟨line, more, hlines, hlength⟩ := h
  have hcs : ∃ tail, cs = '\n' :: (line ++ tail) := by
    rcases Text.split_of_lines hlines with ⟨-, hnil⟩ | ⟨behind, rfl, hbehind⟩
    · cases hnil
    · rcases Text.split_of_lines hbehind with ⟨rfl, -⟩ | ⟨tail, rfl, -⟩
      · exact ⟨[], by rw [List.append_nil]; rfl⟩
      · exact ⟨'\n' :: tail, rfl⟩
  obtain ⟨tail, rfl⟩ := hcs
  obtain ⟨i, rfl⟩ := Nat.exists_eq_succ_of_ne_zero (Nat.ne_of_gt pos)
  rw [List.getElem?_cons_succ, List.getElem?_append_left (by omega)]
  intro hnewline
  have hline : line ∈ lines ('\n' :: (line ++ tail)) := hlines ▸ by simp
  exact Text.newline_not_mem_of_mem_lines hline (List.mem_of_getElem? hnewline)

/-- Among lines within the limit, only an empty line before a line of exactly the limit leaves no
newline at which a cut could be made. -/
theorem Fits.emptyThenFull (h : Fits limit cs) (long : limit < cs.length)
    (none : ∀ j, 0 < j → j ≤ limit → cs[j]? ≠ some '\n') : EmptyThenFull limit cs := by
  cases cs with
  | nil => exact absurd long (Nat.not_lt_zero limit)
  | cons c rest =>
    rw [List.length_cons] at long
    cases hlines : lines rest with
    | nil => exact absurd hlines (Text.lines_ne_nil rest)
    | cons line more =>
      have hlong : limit ≤ line.length := by
        rcases Text.split_of_lines hlines with ⟨rfl, -⟩ | ⟨tail, rfl, -⟩
        · omega
        · refine Nat.le_of_not_lt fun hshort => ?_
          refine none (line.length + 1) (Nat.succ_pos _) (by omega) ?_
          rw [List.getElem?_cons_succ, List.getElem?_append_right (Nat.le_refl _), Nat.sub_self]
          rfl
      rw [Fits, Text.lines_cons, hlines, Text.consLine] at h
      by_cases hc : c = '\n'
      · rw [if_pos hc] at h
        refine ⟨line, more, ?_, Nat.le_antisymm (h line (by simp)) hlong⟩
        rw [Text.lines_cons, hlines, Text.consLine, if_pos hc]
      · rw [if_neg hc] at h
        have hfirst := h (c :: line) List.mem_cons_self
        rw [List.length_cons] at hfirst
        omega

/-- Lines within the limit are cut at a newline, unless an empty line stands before one of exactly
the limit. -/
theorem Fits.cut_newline_iff (h : Fits limit cs) (hlimit : 0 < limit) (long : limit < cs.length) :
    cs[cutLength limit cs]? = some '\n' ↔ ¬EmptyThenFull limit cs := by
  have hcut := isCut_cutLength long
  generalize cutLength (limit : Int) cs = k at hcut ⊢
  cases hcut with
  | newline pos le here _ =>
    exact ⟨fun _ hfull => hfull.no_newline pos le here, fun _ => here⟩
  | hard none =>
    constructor
    · exact fun here => absurd here (none limit hlimit (Nat.le_refl limit))
    · exact fun hnot => absurd (h.emptyThenFull long none) hnot

/-! ## Joining the chunks -/

/-- Chunks joined with newlines are the text, but perhaps for one newline at its end. -/
def Rejoins (chunks : List (List Char)) (cs : List Char) : Prop :=
  unlines chunks = cs ∨ unlines chunks ++ ['\n'] = cs

/-- Where a newline follows the first chunk, the text is rejoined where the rest behind that newline
is. -/
theorem rejoins_cons_iff (chunk rest : List Char) {chunks : List (List Char)}
    (hne : chunks ≠ []) :
    Rejoins (chunk :: chunks) (chunk ++ '\n' :: rest) ↔ Rejoins chunks rest := by
  simp only [Rejoins, Text.unlines_cons chunk hne, List.append_assoc, List.cons_append,
    List.append_cancel_left_eq, List.cons_inj_right]

/-- Where no newline follows the first chunk, the text is not rejoined. -/
theorem not_rejoins_cons (chunk : List Char) {rest : List Char} {chunks : List (List Char)}
    (hne : chunks ≠ []) (hrest : rest.head? ≠ some '\n') :
    ¬Rejoins (chunk :: chunks) (chunk ++ rest) := by
  simp only [Rejoins, Text.unlines_cons chunk hne, List.append_assoc, List.cons_append,
    List.append_cancel_left_eq]
  rintro (rfl | rfl)
  · exact hrest rfl
  · exact hrest rfl

/-- What is left of a text is the text itself, or left behind its first chunk. -/
theorem Rest.whole_or_behind {rest : List Char} (h : Rest limit cs rest) :
    rest = cs ∨ limit < cs.length ∧ Rest limit (remainder limit cs) rest := by
  induction h with
  | whole => exact .inl rfl
  | behind _ hlong ih =>
    rcases ih with rfl | ⟨long, ih⟩
    · exact .inr ⟨hlong, .whole⟩
    · exact .inr ⟨long, .behind ih hlong⟩

/-- A text that is not empty has a chunk. -/
theorem chunksFrom_ne_nil (hlimit : 0 < limit) (hne : cs ≠ []) :
    chunksFrom (limit : Int) cs ≠ [] := by
  by_cases short : cs.length ≤ limit
  · rw [chunksFrom_of_le hne short]
    exact List.cons_ne_nil _ _
  · rw [chunksFrom_of_lt hlimit (Nat.lt_of_not_le short)]
    exact List.cons_ne_nil _ _

/-- Every cut of a text is made at a newline. -/
def CutAtNewlines (limit : Nat) (cs : List Char) : Prop :=
  ∀ rest, Rest limit cs rest → limit < rest.length → rest[cutLength limit rest]? = some '\n'

/-- A text within the limit is not cut at all. -/
theorem cutAtNewlines_of_le (short : cs.length ≤ limit) : CutAtNewlines limit cs := by
  intro rest hrest long
  rcases hrest.whole_or_behind with rfl | ⟨long, -⟩
  · exact absurd long (Nat.not_lt_of_le short)
  · exact absurd long (Nat.not_lt_of_le short)

/-- A longer text is cut at newlines where the first cut is at one, and the rest is cut at
newlines. -/
theorem cutAtNewlines_iff (long : limit < cs.length) :
    CutAtNewlines limit cs ↔
      cs[cutLength limit cs]? = some '\n' ∧ CutAtNewlines limit (remainder limit cs) := by
  constructor
  · exact fun h => ⟨h cs .whole long, fun rest hrest => h rest (hrest.of_remainder long)⟩
  · rintro ⟨hfirst, hbehind⟩ rest hrest hlong
    rcases hrest.whole_or_behind with rfl | ⟨-, hrest⟩
    · exact hfirst
    · exact hbehind rest hrest hlong

/-- Joining the chunks gives the text back if and only if every cut is made at a newline. -/
theorem rejoins_iff (hlimit : 0 < limit) (hne : cs ≠ []) :
    Rejoins (chunksFrom limit cs) cs ↔ CutAtNewlines limit cs := by
  fun_induction chunksFrom (limit : Int) cs with
  | case1 cs hempty => exact absurd (List.isEmpty_iff.mp hempty) hne
  | case2 cs _ short =>
    exact ⟨fun _ => cutAtNewlines_of_le (by omega), fun _ => .inl List.intercalate_singleton⟩
  | case3 cs _ long _ ih =>
    have long : limit < cs.length := by omega
    have hsplit := List.take_append_drop (cutLength limit cs) cs
    rw [cutAtNewlines_iff long]
    by_cases hnewline : cs[cutLength limit cs]? = some '\n'
    · rw [drop_cut_of_newline hnewline] at hsplit
      by_cases hrest : remainder limit cs = []
      · -- The text ends with the newline of the cut, and that is dropped.
        have hchunks : chunksFrom (limit : Int) (remainder limit cs) = [] := by
          rw [hrest, chunksFrom, List.isEmpty_nil, if_pos rfl]
        rw [hrest] at hsplit
        rw [hchunks, hrest]
        refine ⟨fun _ => ⟨hnewline, cutAtNewlines_of_le (Nat.zero_le _)⟩, fun _ => .inr ?_⟩
        rw [unlines, List.intercalate_singleton, hsplit]
      · have hchunks := chunksFrom_ne_nil hlimit hrest
        have hcons := rejoins_cons_iff (cs.take (cutLength limit cs)) (remainder limit cs) hchunks
        rw [hsplit] at hcons
        rw [hcons, ih hrest]
        exact ⟨fun h => ⟨hnewline, h⟩, fun h => h.2⟩
    · rw [drop_cut_of_ne hnewline] at hsplit
      have hlt : cutLength limit cs < cs.length := by
        have hpos : 0 < (limit : Int) := by omega
        have hle := cutLength_le hpos cs
        omega
      have hrest : remainder limit cs ≠ [] := by
        rw [← drop_cut_of_ne hnewline]
        exact List.ne_nil_of_length_pos (by rw [List.length_drop]; omega)
      have hhead : (remainder limit cs).head? ≠ some '\n' := by
        rw [← drop_cut_of_ne hnewline, List.head?_drop]
        exact hnewline
      have hnot := not_rejoins_cons (cs.take (cutLength limit cs))
        (chunksFrom_ne_nil hlimit hrest) hhead
      rw [hsplit] at hnot
      exact ⟨fun h => absurd h hnot, fun h => absurd h.1 hnewline⟩
  | case4 cs _ long stuck => exact absurd (length_remainder_lt (by omega) (by omega)) stuck

/-- Lines within the limit are cut at newlines if and only if no chunk starts with an empty line
before one of exactly the limit. -/
theorem Fits.cutAtNewlines_iff (h : Fits limit cs) (hlimit : 0 < limit) :
    CutAtNewlines limit cs ↔ ∀ rest, Rest limit cs rest → ¬EmptyThenFull limit rest := by
  have hlong : ∀ {rest}, EmptyThenFull limit rest → limit < rest.length := by
    rintro rest ⟨line, more, hlines, hlength⟩
    rcases Text.split_of_lines hlines with ⟨-, hnil⟩ | ⟨behind, rfl, hbehind⟩
    · cases hnil
    · rcases Text.split_of_lines hbehind with ⟨rfl, -⟩ | ⟨tail, rfl, -⟩
      all_goals
        simp only [List.nil_append, List.length_cons, List.length_append]
        omega
  constructor
  · intro hcut rest hrest hfull
    have long := hlong hfull
    exact ((hrest.fits h).cut_newline_iff hlimit long).mp (hcut rest hrest long) hfull
  · intro hnot rest hrest long
    exact ((hrest.fits h).cut_newline_iff hlimit long).mpr (hnot rest hrest)

/-- What is left of a text has no empty line before one of exactly the limit when the text has
none. -/
theorem Rest.gapless {rest : List Char} (h : Rest limit cs rest) (hlimit : 0 < limit)
    (hfits : Fits limit cs) (hgapless : Gapless limit cs) : Gapless limit rest := by
  induction h with
  | whole => exact hgapless
  | @behind rest earlier long ih =>
    have hnot : ¬EmptyThenFull limit rest := fun ⟨line, more, hlines, hlength⟩ =>
      ih [] line more hlines hlength
    have hnewline := ((earlier.fits hfits).cut_newline_iff hlimit long).mpr hnot
    have hsplit := List.take_append_drop (cutLength limit rest) rest
    rw [drop_cut_of_newline hnewline] at hsplit
    intro before line after hlines
    refine ih (lines (rest.take (cutLength limit rest)) ++ before) line after ?_
    rw [List.append_assoc, ← hlines, ← Text.lines_append_newline, hsplit]

end Limit

/-! ## Texts -/

/-- Joining the chunks of a text with newlines gives the text back, but perhaps for one newline at
its end. -/
def KeepsLines (limit : Nat) (text : String) : Prop :=
  joinLines (split limit text) = text ∨ joinLines (split limit text) ++ "\n" = text

section Texts

variable {limit : Nat} {text : String}

/-- Lines are kept just where the chunks rejoin the text. -/
theorem keepsLines_iff_rejoins :
    KeepsLines limit text ↔ Rejoins (chunks limit text.toList) text.toList := by
  have hjoin : (joinLines (split limit text)).toList = unlines (chunks limit text.toList) := by
    rw [Text.toList_joinLines, split, Text.map_toList_ofList]
  rw [KeepsLines, Rejoins, ← String.toList_inj, ← String.toList_inj, String.toList_append, hjoin]
  rfl

/-- A text fits where all its lines are within the limit. -/
theorem fits_of_lines (h : ∀ line ∈ splitLines text, line.length ≤ limit) :
    Fits limit text.toList := by
  intro line hline
  have hlength := h (String.ofList line) (List.mem_map_of_mem hline)
  rwa [String.length_ofList] at hlength

/-- Joining the chunks of a text gives it back if and only if every cut is made at a newline. -/
theorem keepsLines_iff_cutAtNewlines (hlimit : 0 < limit) :
    KeepsLines limit text ↔ CutAtNewlines limit text.toList := by
  rw [keepsLines_iff_rejoins]
  by_cases hempty : text.toList = []
  · have hchunks : chunks (limit : Int) [] = [[]] := if_pos (Int.natCast_nonneg limit)
    rw [hempty, hchunks]
    exact ⟨fun _ => cutAtNewlines_of_le (Nat.zero_le limit), fun _ => .inl rfl⟩
  · rw [chunks_eq_chunksFrom hempty, rejoins_iff hlimit hempty]

/-- Chunks that make the text when they are joined are cut at the ends of lines. -/
theorem KeepsLines.lines_eq (h : KeepsLines limit text) (hlimit : 0 < limit) :
    (split limit text).flatMap splitLines = splitLines text ∨
      (split limit text).flatMap splitLines ++ [""] = splitLines text := by
  have hpos : 0 < (limit : Int) := by omega
  have hjoin := Text.splitLines_joinLines_flatMap (split_ne_nil hpos text)
  rcases h with h | h
  · exact .inl (hjoin.symm.trans (congrArg splitLines h))
  · rw [← hjoin, ← Text.splitLines_append_newline]
    exact .inr (congrArg splitLines h)

/-- **A line within the limit is cut only behind an empty line.** Let every line of a text be within
the limit, which is at least one. Joining the chunks of the text with newlines gives the text back,
but perhaps for one newline at its end, if and only if no chunk starts with an empty line with a
line of exactly the limit behind it. So it does where no empty line of the text stands before a
line of exactly the limit. Then the lines of the chunks are the lines of the text, but perhaps for
an empty one at its end, and no line is divided. -/
theorem keepsLines_iff (hlimit : 0 < limit)
    (hlines : ∀ line ∈ splitLines text, line.length ≤ limit) :
    (KeepsLines limit text ↔ ∀ rest, Rest limit text.toList rest → ¬EmptyThenFull limit rest) ∧
    ((∀ before line after, splitLines text = before ++ "" :: line :: after →
      line.length ≠ limit) → KeepsLines limit text) ∧
    (KeepsLines limit text → (split limit text).flatMap splitLines = splitLines text ∨
      (split limit text).flatMap splitLines ++ [""] = splitLines text) := by
  have hfits := fits_of_lines hlines
  have hiff : KeepsLines limit text ↔
      ∀ rest, Rest limit text.toList rest → ¬EmptyThenFull limit rest := by
    rw [keepsLines_iff_cutAtNewlines hlimit, hfits.cutAtNewlines_iff hlimit]
  refine ⟨hiff, fun hapart => hiff.mpr fun rest hrest => ?_, fun h => h.lines_eq hlimit⟩
  have hgapless : Gapless limit text.toList := by
    intro before line after hsplit
    have hlength := hapart (before.map String.ofList) (String.ofList line)
      (after.map String.ofList) (by rw [splitLines, hsplit, List.map_append]; rfl)
    rwa [String.length_ofList] at hlength
  rintro ⟨line, more, hsplit, hlength⟩
  exact hrest.gapless hlimit hfits hgapless [] line more hsplit hlength

/-- Lines of exactly the limit, an empty line behind one of them, and a newline at the end. -/
theorem keepsLines_iff_fullLines : 0 < 3 ∧
    (∀ line ∈ splitLines "abc\n\nde\nfgh\n", line.length ≤ 3) ∧
    KeepsLines 3 "abc\n\nde\nfgh\n" := by
  have hlines : splitLines "abc\n\nde\nfgh\n" = ["abc", "", "de", "fgh", ""] := by decide
  have hfits : ∀ line ∈ splitLines "abc\n\nde\nfgh\n", line.length ≤ 3 := by decide
  refine ⟨by decide, hfits, (keepsLines_iff (by decide) hfits).2.1 fun before line after h => ?_⟩
  rw [hlines] at h
  -- Behind the only empty line that another one follows stands a line of two characters.
  rcases before with _ | ⟨_, _ | ⟨_, _ | ⟨_, _ | ⟨_, _ | ⟨_, before⟩⟩⟩⟩⟩ <;> simp at h
  rw [← h.2.1]
  decide

/-- An empty line and a line of three characters do not fit into a chunk of three, and the second
one is cut. -/
theorem not_keepsLines_emptyThenFull : ¬∀ (limit : Nat) (text : String), 0 < limit →
    (∀ line ∈ splitLines text, line.length ≤ limit) → KeepsLines limit text := by
  intro h
  have hchunks : split (3 : Nat) "\nabc\ndef" = ["\nab", "c", "def"] := by decide +kernel
  have hkeeps := h 3 "\nabc\ndef" (by decide) (by decide)
  rw [KeepsLines, hchunks] at hkeeps
  exact absurd hkeeps (by decide)

end Texts

end ChatRelay.Chunk
