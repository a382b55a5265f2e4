import ChatRelay.Proofs.Chunk
import ChatRelay.Proofs.Lines
import ChatRelay.Text.Blank

/-!
# Where chunks start and end

A chunk of a text starts at the start of the text, or behind the chunk before it (`Chunk.Rest`). It
is what is left there starts with (`Chunk.mem_chunks_iff`), and where that is not all it ends at the
one place at which a cut is made (`Chunk.IsCut`).

Whether a chunk is blank can be read off what is left where it starts (`Chunk.StartsBlank`). A text
in which every line is within the limit and no line is blank has no blank chunk.
-/

namespace ChatRelay.Chunk

open Text (isBlank)

/-! ## The place of a cut -/

/-- There is no last newline where there is none at all. -/
theorem lastNewline?_eq_none_iff {cs : List Char} : lastNewline? cs = none ↔ '\n' ∉ cs := by
  induction cs with
  | nil => exact ⟨fun _ => List.not_mem_nil, fun _ => rfl⟩
  | cons c rest ih =>
    rw [lastNewline?, List.mem_cons, not_or, ← ih]
    cases lastNewline? rest with
    | some i =>
      constructor
      · intro h
        cases h
      · intro h
        cases h.2
    | none => simp [eq_comm]

/-- The last newline is a newline with none behind it. -/
theorem last_of_lastNewline? {cs : List Char} {k : Nat} (h : lastNewline? cs = some k) :
    cs[k]? = some '\n' ∧ ∀ j, k < j → cs[j]? ≠ some '\n' := by
  induction cs generalizing k with
  | nil => cases h
  | cons c rest ih =>
    rw [lastNewline?] at h
    cases hrest : lastNewline? rest with
    | some i =>
      rw [hrest] at h
      cases h
      obtain ⟨hnewline, hlast⟩ := ih hrest
      refine ⟨hnewline, fun j hj => ?_⟩
      obtain ⟨j, rfl⟩ := Nat.exists_eq_succ_of_ne_zero (Nat.ne_zero_of_lt hj)
      exact hlast j (Nat.lt_of_succ_lt_succ hj)
    | none =>
      rw [hrest] at h
      have hnone := lastNewline?_eq_none_iff.mp hrest
      by_cases hc : c = '\n'
      · cases (if_pos hc).symm.trans h
        refine ⟨congrArg some hc, fun j hj hnewline => hnone ?_⟩
        obtain ⟨j, rfl⟩ := Nat.exists_eq_succ_of_ne_zero (Nat.ne_zero_of_lt hj)
        exact List.mem_of_getElem? hnewline
      · cases (if_neg hc).symm.trans h

/-- A place at which a text that is longer than the limit is cut. -/
inductive IsCut (limit : Nat) (cs : List Char) : Nat → Prop where
  /-- At a newline within the limit that is not the first character, when no other one follows it
  within the limit. -/
  | newline {k : Nat} (pos : 0 < k) (le : k ≤ limit) (here : cs[k]? = some '\n')
      (last : ∀ j, k < j → j ≤ limit → cs[j]? ≠ some '\n') : IsCut limit cs k
  /-- At the limit, when there is no such newline. -/
  | hard (none : ∀ j, 0 < j → j ≤ limit → cs[j]? ≠ some '\n') : IsCut limit cs limit

/-- A cut takes at least one character. -/
theorem IsCut.pos {limit k : Nat} {cs : List Char} (h : IsCut limit cs k) (hlimit : 0 < limit) :
    0 < k := by
  cases h with
  | newline pos _ _ _ => exact pos
  | hard _ => exact hlimit

/-- A text is cut at one place only. -/
theorem IsCut.unique {limit k k' : Nat} {cs : List Char} (h : IsCut limit cs k)
    (h' : IsCut limit cs k') : k = k' := by
  cases h with
  | newline pos le here last =>
    cases h' with
    | newline pos' le' here' last' =>
      rcases Nat.lt_trichotomy k k' with hlt | heq | hgt
      · exact absurd here' (last k' hlt le')
      · exact heq
      · exact absurd here (last' k hgt le)
    | hard none => exact absurd here (none k pos le)
  | hard none =>
    cases h' with
    | newline pos' le' here' _ => exact absurd here' (none k' pos' le')
    | hard _ => rfl

section Limit

variable {limit : Nat} {cs : List Char}

/-- The newlines among which the one of a cut is looked for. -/
theorem newline_window (long : limit < cs.length) (j : Nat) :
    (cs.take (allowed ((limit : Int) + 1) cs.length))[j]? = some '\n' ↔
      j ≤ limit ∧ cs[j]? = some '\n' := by
  have hallowed : allowed ((limit : Int) + 1) cs.length = limit + 1 := by
    rw [allowed, if_pos (by omega)]
    omega
  rw [hallowed, List.getElem?_take]
  by_cases hj : j ≤ limit
  · rw [if_pos (Nat.lt_succ_of_le hj)]
    exact ⟨fun h => ⟨hj, h⟩, fun h => h.2⟩
  · rw [if_neg (by omega)]
    constructor
    · intro h
      cases h
    · exact fun h => absurd h.1 hj

/-- A chunk is cut off where a cut is made. -/
theorem isCut_cutLength (long : limit < cs.length) : IsCut limit cs (cutLength limit cs) := by
  have hwindow := newline_window long
  have hlimit : allowed (limit : Int) cs.length = limit := by
    rw [allowed, if_pos (Int.natCast_nonneg limit), Int.toNat_natCast]
    exact Nat.min_eq_left (Nat.le_of_lt long)
  unfold cutLength
  generalize cs.take (allowed ((limit : Int) + 1) cs.length) = window at hwindow ⊢
  rw [hlimit]
  cases hplace : lastNewline? window with
  | none =>
    refine .hard fun j _ hle hj => lastNewline?_eq_none_iff.mp hplace ?_
    exact List.mem_of_getElem? ((hwindow j).mpr ⟨hle, hj⟩)
  | some i =>
    obtain ⟨hhere, hlast⟩ := last_of_lastNewline? hplace
    have hlater : ∀ j, i < j → j ≤ limit → cs[j]? ≠ some '\n' :=
      fun j hj hle hnewline => hlast j hj ((hwindow j).mpr ⟨hle, hnewline⟩)
    cases i with
    | zero => exact .hard hlater
    | succ i =>
      obtain ⟨hle, hnewline⟩ := (hwindow _).mp hhere
      exact .newline (Nat.succ_pos i) hle hnewline hlater

/-- A newline at the cut is dropped. -/
theorem drop_cut_of_newline (h : cs[cutLength limit cs]? = some '\n') :
    cs.drop (cutLength limit cs) = '\n' :: remainder limit cs := by
  obtain ⟨hlt, hget⟩ := List.getElem?_eq_some_iff.mp h
  have hdrop : cs.drop (cutLength limit cs) = '\n' :: cs.drop (cutLength limit cs + 1) := by
    rw [List.drop_eq_getElem_cons hlt, hget]
  rw [remainder, hdrop, dropNewline]

/-- Nothing else is dropped. -/
theorem drop_cut_of_ne (h : cs[cutLength limit cs]? ≠ some '\n') :
    cs.drop (cutLength limit cs) = remainder limit cs := by
  unfold remainder dropNewline
  split
  · rename_i rest hdrop
    have hhead := congrArg List.head? hdrop
    rw [List.head?_drop] at hhead
    exact absurd hhead h
  · rfl

/-! ## The places of chunks -/

/-- The chunk that what is left of a text starts with. -/
def first (limit : Nat) (cs : List Char) : List Char :=
  if cs.length ≤ limit then cs else cs.take (cutLength limit cs)

/-- What is left of a text where one of its chunks starts. -/
inductive Rest (limit : Nat) (cs : List Char) : List Char → Prop where
  | whole : Rest limit cs cs
  | behind {rest : List Char} (earlier : Rest limit cs rest) (long : limit < rest.length) :
      Rest limit cs (remainder limit rest)

/-- What is left behind the first chunk is left of the whole text. -/
theorem Rest.of_remainder {rest : List Char} (long : limit < cs.length)
    (h : Rest limit (remainder limit cs) rest) : Rest limit cs rest := by
  induction h with
  | whole => exact .behind .whole long
  | behind _ hlong ih => exact .behind ih hlong

/-- A text within the limit is one chunk. -/
theorem chunksFrom_of_le (hne : cs ≠ []) (short : cs.length ≤ limit) :
    chunksFrom (limit : Int) cs = [cs] := by
  rw [chunksFrom, if_neg (by simpa using hne), if_pos (by omega)]

/-- A text beyond the limit starts with what the cut takes, and the other chunks are those of what
is left. -/
theorem chunksFrom_of_lt (hlimit : 0 < limit) (long : limit < cs.length) :
    chunksFrom (limit : Int) cs =
      cs.take (cutLength limit cs) :: chunksFrom limit (remainder limit cs) := by
  have hne : ¬cs.isEmpty = true := by
    cases cs with
    | nil => exact absurd long (Nat.not_lt_zero limit)
    | cons _ _ => exact Bool.false_ne_true
  rw [chunksFrom, if_neg hne, if_neg (by omega),
    if_pos (length_remainder_lt (by omega) (by omega))]

/-- The chunks of a text that is not empty are those cut off from its start. -/
theorem chunks_eq_chunksFrom (hne : cs ≠ []) :
    chunks (limit : Int) cs = chunksFrom (limit : Int) cs := by
  unfold chunks
  split
  · rw [chunksFrom_of_le hne (by omega)]
  · rfl

/-- The chunks of what is left of a text are chunks of the text. -/
theorem Rest.chunksFrom_subset {rest : List Char} (hlimit : 0 < limit) (h : Rest limit cs rest) :
    chunksFrom (limit : Int) rest ⊆ chunksFrom (limit : Int) cs := by
  induction h with
  | whole => exact List.Subset.refl _
  | behind _ hlong ih =>
    refine List.Subset.trans ?_ ih
    rw [chunksFrom_of_lt hlimit hlong]
    exact List.subset_cons_self _ _

/-- **A chunk of a text is what is left of the text, somewhere where a chunk starts, up to the
limit or the next cut.** -/
theorem mem_chunks_iff (hlimit : 0 < limit) (hne : cs ≠ []) {chunk : List Char} :
    chunk ∈ chunks (limit : Int) cs ↔
      ∃ rest, Rest limit cs rest ∧ rest ≠ [] ∧ chunk = first limit rest := by
  rw [chunks_eq_chunksFrom hne]
  constructor
  · intro h
    clear hne
    fun_induction chunksFrom (limit : Int) cs with
    | case1 => cases h
    | case2 cs hempty short =>
      have hfirst : first limit cs = cs := if_pos (by omega)
      rw [List.mem_singleton.mp h]
      exact ⟨cs, .whole, by simpa using hempty, hfirst.symm⟩
    | case3 cs hempty long _ ih =>
      have hfirst : first limit cs = cs.take (cutLength limit cs) := if_neg (by omega)
      rcases List.mem_cons.mp h with rfl | h
      · exact ⟨cs, .whole, by simpa using hempty, hfirst.symm⟩
      · obtain ⟨rest, hrest, hne, hchunk⟩ := ih h
        exact ⟨rest, hrest.of_remainder (by omega), hne, hchunk⟩
    | case4 cs _ long stuck => exact absurd (length_remainder_lt (by omega) (by omega)) stuck
  · rintro ⟨rest, hrest, hsome, rfl⟩
    apply hrest.chunksFrom_subset hlimit
    unfold first
    split
    · rename_i short
      rw [chunksFrom_of_le hsome short]
      exact List.mem_singleton.mpr rfl
    · rename_i long
      rw [chunksFrom_of_lt hlimit (Nat.lt_of_not_le long)]
      exact List.mem_cons_self

/-- No chunk is empty, unless the text is. -/
theorem first_ne_nil (hlimit : 0 < limit) (hne : cs ≠ []) : first limit cs ≠ [] := by
  unfold first
  split
  · exact hne
  · rename_i long
    have hpos := (isCut_cutLength (Nat.lt_of_not_le long)).pos hlimit
    intro hnil
    rcases List.take_eq_nil_iff.mp hnil with hzero | hnil
    · omega
    · exact hne hnil

/-! ## Blank chunks -/

/-- A text starts with a chunk of blanks: the text is within the limit and all blank, or all that
stands before its cut is. -/
inductive StartsBlank (limit : Nat) (cs : List Char) : Prop where
  | short (within : cs.length ≤ limit) (blank : ∀ c ∈ cs, isBlank c = true)
  | long {k : Nat} (beyond : limit < cs.length) (cut : IsCut limit cs k)
      (blank : ∀ c ∈ cs.take k, isBlank c = true)

/-- A chunk is blank if and only if what is left where it starts tells so. -/
theorem blank_first_iff :
    (∀ c ∈ first limit cs, isBlank c = true) ↔ StartsBlank limit cs := by
  unfold first
  constructor
  · intro h
    split at h
    · rename_i within
      exact .short within h
    · rename_i long
      have long := Nat.lt_of_not_le long
      exact .long long (isCut_cutLength long) h
  · rintro (⟨within, blank⟩ | ⟨beyond, cut, blank⟩)
    · rw [if_pos within]
      exact blank
    · rw [if_neg (Nat.not_le_of_lt beyond), (isCut_cutLength beyond).unique cut]
      exact blank

/-! ## Texts without blank lines -/

/-- Every line is within the limit, and none is blank. -/
def Legible (limit : Nat) (cs : List Char) : Prop :=
  ∀ line ∈ Text.lines cs, line.length ≤ limit ∧ ∃ c ∈ line, isBlank c = false

/-- A legible text has a character that is not blank. -/
theorem Legible.exists_mem (h : Legible limit cs) : ∃ c ∈ cs, isBlank c = false := by
  obtain ⟨line, hline⟩ := List.exists_mem_of_ne_nil _ (Text.lines_ne_nil cs)
  obtain ⟨-, c, hc, hblank⟩ := h line hline
  exact ⟨c, Text.mem_of_mem_lines hline hc, hblank⟩

/-- A text is legible where the texts on both sides of a newline are. -/
theorem legible_append_newline {before behind : List Char} :
    Legible limit (before ++ '\n' :: behind) ↔ Legible limit before ∧ Legible limit behind := by
  rw [Legible, Text.lines_append_newline]
  exact List.forall_mem_append

/-- Such a text is cut at the end of a line. -/
theorem Legible.cut_newline (h : Legible limit cs) (long : limit < cs.length) {k : Nat}
    (cut : IsCut limit cs k) : cs[k]? = some '\n' := by
  cases cut with
  | newline _ _ here _ => exact here
  | hard none =>
    have hmem : '\n' ∈ cs := by
      refine Classical.not_not.mp fun hnot => ?_
      rw [Legible, Text.lines_of_not_mem hnot] at h
      exact absurd (h cs (List.mem_singleton.mpr rfl)).1 (Nat.not_le_of_lt long)
    -- The first line ends at a place at which a cut could be made.
    obtain ⟨line, rest, rfl, hline⟩ := List.eq_append_cons_of_mem hmem
    obtain ⟨hfirst, -⟩ := legible_append_newline.mp h
    rw [Legible, Text.lines_of_not_mem hline] at hfirst
    obtain ⟨hle, c, hc, -⟩ := hfirst line (List.mem_singleton.mpr rfl)
    have hnewline : (line ++ '\n' :: rest)[line.length]? = some '\n' := by
      rw [List.getElem?_append_right (Nat.le_refl _), Nat.sub_self]
      rfl
    exact absurd hnewline (none line.length (List.length_pos_of_mem hc) hle)

/-- The lines before the cut and those behind it are lines of the text. -/
theorem Legible.cut (h : Legible limit cs) (long : limit < cs.length) :
    Legible limit (cs.take (cutLength limit cs)) ∧ Legible limit (remainder limit cs) := by
  have hnewline := h.cut_newline long (isCut_cutLength long)
  rw [← legible_append_newline, ← drop_cut_of_newline hnewline, List.take_append_drop]
  exact h

/-- What is left of a legible text is legible. -/
theorem Rest.legible {rest : List Char} (h : Rest limit cs rest) (hcs : Legible limit cs) :
    Legible limit rest := by
  induction h with
  | whole => exact hcs
  | behind _ hlong ih => exact (ih.cut hlong).2

/-- No chunk of a text is blank when every line is within the limit and no line is blank. -/
theorem Legible.not_startsBlank (h : Legible limit cs) : ¬StartsBlank limit cs := by
  rintro (⟨within, blank⟩ | ⟨beyond, cut, blank⟩)
  · obtain ⟨c, hc, hblank⟩ := h.exists_mem
    rw [blank c hc] at hblank
    cases hblank
  · obtain ⟨c, hc, hblank⟩ := (h.cut beyond).1.exists_mem
    rw [(isCut_cutLength beyond).unique cut] at hc
    rw [blank c hc] at hblank
    cases hblank

end Limit

end ChatRelay.Chunk
