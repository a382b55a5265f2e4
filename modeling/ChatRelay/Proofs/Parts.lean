import ChatRelay.Proofs.Cutting

/-!
# The parts of a text

A text that is sent in chunks loses nothing but newlines. A part of it is a chunk with what is
dropped behind the chunk (`Chunk.Part`). `Chunk.Part.Begins` says what the first part is of what is
left of a text, and `Chunk.Parts` that a text is cut into parts, one behind the other, to its end.

The main statement is `Chunk.split_lossless`.
-/

namespace ChatRelay.Chunk

/-! ## One part -/

/-- A chunk of a text, and what is dropped behind it. -/
structure Part where
  chunk : List Char
  dropped : List Char

namespace Part

/-- What stands in the text for a part. -/
def text (p : Part) : List Char := p.chunk ++ p.dropped

/-- The first part of what is left of a text. -/
inductive Begins (limit : Nat) (rest : List Char) : Part → Prop where
  /-- What is within the limit is the last chunk. -/
  | last (short : rest.length ≤ limit) : Begins limit rest ⟨rest, []⟩
  /-- What is longer is cut at the last newline that is not its first character and has no more
  than the limit before it, and that newline is dropped. -/
  | newline {k : Nat} (long : limit < rest.length) (pos : 0 < k) (le : k ≤ limit)
      (here : rest[k]? = some '\n') (last : ∀ j, k < j → j ≤ limit → rest[j]? ≠ some '\n') :
      Begins limit rest ⟨rest.take k, ['\n']⟩
  /-- Where there is no such newline, the chunk has exactly the limit, and nothing is dropped. -/
  | hard (long : limit < rest.length) (none : ∀ j, 0 < j → j ≤ limit → rest[j]? ≠ some '\n') :
      Begins limit rest ⟨rest.take limit, []⟩

section Begins

variable {limit : Nat} {rest : List Char} {p : Part} (h : p.Begins limit rest)
include h

/-- A chunk is within the limit. -/
theorem Begins.length_le : p.chunk.length ≤ limit := by
  cases h with
  | last short => exact short
  | newline _ _ le _ _ => exact Nat.le_trans (List.length_take_le _ _) le
  | hard _ _ => exact List.length_take_le _ _

/-- A chunk is empty only at the end of the text. -/
theorem Begins.chunk_ne_nil (hlimit : 0 < limit) (hne : rest ≠ []) : p.chunk ≠ [] := by
  cases h with
  | last _ => exact hne
  | newline _ pos _ _ _ =>
    exact fun hnil => (List.take_eq_nil_iff.mp hnil).elim (Nat.ne_of_gt pos) hne
  | hard _ _ => exact fun hnil => (List.take_eq_nil_iff.mp hnil).elim (Nat.ne_of_gt hlimit) hne

/-- Behind a chunk nothing is dropped, or one newline. -/
theorem Begins.dropped_cases : p.dropped = [] ∨ p.dropped = ['\n'] := by
  cases h with
  | last _ => exact .inl rfl
  | newline _ _ _ _ _ => exact .inr rfl
  | hard _ _ => exact .inl rfl

end Begins

end Part

/-! ## All parts -/

/-- The text that is made of parts. -/
def glue (ps : List Part) : List Char := ps.flatMap Part.text

/-- The parts of a text, each of them the first one of what is left behind those before it. -/
inductive Parts (limit : Nat) : List Char → List Part → Prop where
  | nil : Parts limit [] []
  | cons {p : Part} {ps : List Part} {rest : List Char} (some : p.text ++ rest ≠ [])
      (begins : p.Begins limit (p.text ++ rest)) (behind : Parts limit rest ps) :
      Parts limit (p.text ++ rest) (p :: ps)

section Limit

variable {limit : Nat} {cs : List Char}

/-- Nothing is lost when a chunk is cut off. -/
theorem exists_begins (hlimit : 0 < limit) (long : limit < cs.length) :
    ∃ p : Part, p.Begins limit cs ∧ p.chunk = cs.take (cutLength limit cs) ∧
      p.text ++ remainder limit cs = cs := by
  have hcut := isCut_cutLength long
  by_cases hnewline : cs[cutLength limit cs]? = some '\n'
  · refine ⟨⟨cs.take (cutLength limit cs), ['\n']⟩, ?_, rfl, ?_⟩
    · generalize cutLength (limit : Int) cs = k at hcut hnewline ⊢
      cases hcut with
      | newline pos le here last => exact .newline long pos le here last
      | hard none => exact absurd hnewline (none limit hlimit (Nat.le_refl limit))
    · rw [Part.text, List.append_assoc, List.singleton_append, ← drop_cut_of_newline hnewline,
        List.take_append_drop]
  · refine ⟨⟨cs.take (cutLength limit cs), []⟩, ?_, rfl, ?_⟩
    · generalize cutLength (limit : Int) cs = k at hcut hnewline ⊢
      cases hcut with
      | newline _ _ here _ => exact absurd here hnewline
      | hard none => exact .hard long none
    · rw [Part.text, List.append_nil, ← drop_cut_of_ne hnewline, List.take_append_drop]

/-- The chunks of a text are those of its parts. -/
theorem exists_parts (hlimit : 0 < limit) (cs : List Char) :
    ∃ ps, Parts limit cs ps ∧ chunksFrom (limit : Int) cs = ps.map Part.chunk := by
  fun_induction chunksFrom (limit : Int) cs with
  | case1 cs hempty =>
    rw [List.isEmpty_iff.mp hempty]
    exact ⟨[], .nil, rfl⟩
  | case2 cs hempty short =>
    have hwhole : (⟨cs, []⟩ : Part).text ++ [] = cs := by
      rw [Part.text, List.append_nil, List.append_nil]
    have hparts : Parts limit ((⟨cs, []⟩ : Part).text ++ []) [⟨cs, []⟩] := by
      refine .cons ?_ ?_ .nil
      · rw [hwhole]
        simpa using hempty
      · rw [hwhole]
        exact .last (by omega)
    exact ⟨_, hwhole ▸ hparts, rfl⟩
  | case3 cs hempty long _ ih =>
    have long : limit < cs.length := by omega
    obtain ⟨p, hbegins, hchunk, hsplit⟩ := exists_begins hlimit long
    obtain ⟨ps, hparts, hchunks⟩ := ih
    have hcons : Parts limit (p.text ++ remainder limit cs) (p :: ps) := by
      refine .cons ?_ ?_ hparts
      · rw [hsplit]
        simpa using hempty
      · rw [hsplit]
        exact hbegins
    refine ⟨p :: ps, hsplit ▸ hcons, ?_⟩
    rw [List.map_cons, hchunk, hchunks]
  | case4 cs _ long stuck => exact absurd (length_remainder_lt (by omega) (by omega)) stuck

namespace Parts

variable {ps : List Part}

/-- The parts of a text make it up again. -/
theorem glue_eq (h : Parts limit cs ps) : glue ps = cs := by
  induction h with
  | nil => rfl
  | cons _ _ _ ih => rw [← ih, glue, List.flatMap_cons]; rfl

/-- Every part is the first one of what is left where it stands. -/
theorem begins_of_split (h : Parts limit cs ps) {before behind : List Part} {p : Part}
    (hsplit : ps = before ++ p :: behind) :
    glue (p :: behind) ≠ [] ∧ p.Begins limit (glue (p :: behind)) := by
  induction h generalizing before with
  | nil => simp at hsplit
  | @cons _ _ rest hsome hbegins hparts ih =>
    cases before with
    | nil =>
      cases hsplit
      have hglue : glue (p :: behind) = p.text ++ rest := by
        rw [glue, List.flatMap_cons, ← hparts.glue_eq, glue]
      rw [hglue]
      exact ⟨hsome, hbegins⟩
    | cons _ before =>
      cases hsplit
      exact ih rfl

end Parts

/-- A text is left behind by cutting one chunk off. -/
def IsBehind (limit : Nat) (rest cs : List Char) : Prop :=
  limit < cs.length ∧ rest = remainder limit cs

/-- No text can be cut for ever. -/
theorem wellFounded_isBehind (hlimit : 0 < limit) : WellFounded (IsBehind limit) := by
  refine Subrelation.wf ?_ (measure List.length).wf
  rintro rest cs ⟨long, rfl⟩
  exact length_remainder_lt (by omega) (by omega)

end Limit

/-- **Cutting a text into chunks loses nothing, and respects the limit.** With a limit of at least
one, cutting chunks off a text comes to an end. The text is its chunks with what is dropped behind
each of them, in their order, which is one newline or nothing. No chunk is longer than the limit,
and none is empty unless the text is. Each chunk is the first one of what is left where it
stands: all of that, when it is within the limit; else what stands before the last newline that is
not the first character and has no more than the limit before it; and where there is none, exactly
the limit. The newline is dropped if and only if the cut was made at one. -/
theorem split_lossless {limit : Nat} (hlimit : 0 < limit) (text : String) :
    WellFounded (IsBehind limit) ∧
    ∃ ps : List Part, split limit text = ps.map (fun p => String.ofList p.chunk) ∧
      glue ps = text.toList ∧
      (∀ p ∈ ps, p.chunk.length ≤ limit ∧ (p.chunk = [] → text = "") ∧
        (p.dropped = [] ∨ p.dropped = ['\n'])) ∧
      ∀ before p behind, ps = before ++ p :: behind → p.Begins limit (glue (p :: behind)) := by
  refine ⟨wellFounded_isBehind hlimit, ?_⟩
  by_cases hempty : text = ""
  · -- The empty text is one chunk, and no part of it is cut off.
    have hbegins : (⟨[], []⟩ : Part).Begins limit [] := .last (Nat.zero_le limit)
    refine ⟨[⟨[], []⟩], ?_, by rw [hempty]; rfl, ?_, ?_⟩
    · rw [hempty, split, chunks, if_pos (by simp)]
      rfl
    · intro p hp
      rw [List.mem_singleton.mp hp]
      exact ⟨Nat.zero_le limit, fun _ => hempty, .inl rfl⟩
    · intro before p behind hsplit
      obtain ⟨rfl, rfl, rfl⟩ : before = [] ∧ p = ⟨[], []⟩ ∧ behind = [] := by
        cases before <;> simp_all
      exact hbegins
  · have hne : text.toList ≠ [] := fun hnil => hempty (String.toList_eq_nil_iff.mp hnil)
    obtain ⟨ps, hparts, hchunks⟩ := exists_parts hlimit text.toList
    refine ⟨ps, ?_, hparts.glue_eq, fun p hp => ?_, fun before p behind hsplit => ?_⟩
    · rw [split, chunks_eq_chunksFrom hne, hchunks, List.map_map]
      rfl
    · obtain ⟨before, behind, hsplit⟩ := List.append_of_mem hp
      obtain ⟨hsome, hbegins⟩ := hparts.begins_of_split hsplit
      exact ⟨hbegins.length_le, fun hnil => absurd hnil (hbegins.chunk_ne_nil hlimit hsome),
        hbegins.dropped_cases⟩
    · exact (hparts.begins_of_split hsplit).2

/-- A text with a newline at its start, two in a row and one at its end. -/
theorem split_lossless_newlines : 0 < 5 ∧
    ∃ ps : List Part, ["\nabcd", "ef\n", "xy\n"] = ps.map (fun p => String.ofList p.chunk) ∧
      glue ps = "\nabcdef\n\nxy\n".toList ∧
      ∀ before p behind, ps = before ++ p :: behind → p.Begins 5 (glue (p :: behind)) := by
  obtain ⟨-, ps, hsplit, hglue, -, hbegins⟩ :=
    split_lossless (by decide : 0 < 5) "\nabcdef\n\nxy\n"
  have hchunks : split (5 : Nat) "\nabcdef\n\nxy\n" = ["\nabcd", "ef\n", "xy\n"] := by
    decide +kernel
  exact ⟨by decide, ps, hchunks ▸ hsplit, hglue, hbegins⟩

end ChatRelay.Chunk
