import ChatRelay.Chunk

/-!
# The lengths of chunks

With a limit of at least one, no chunk of a text is longer than the limit
(`Chunk.length_le_of_mem_split`), and every text has a chunk (`Chunk.split_ne_nil`).
-/

namespace ChatRelay.Chunk

/-- The last newline stands within the text. -/
theorem lt_length_of_lastNewline? {cs : List Char} {i : Nat} (h : lastNewline? cs = some i) :
    i < cs.length := by
  induction cs generalizing i with
  | nil => cases h
  | cons c rest ih =>
    rw [lastNewline?] at h
    cases hrest : lastNewline? rest with
    | some j =>
      have hj := ih hrest
      rw [hrest] at h
      cases h
      exact Nat.succ_lt_succ hj
    | none =>
      rw [hrest] at h
      dsimp only at h
      split at h
      · cases h
        exact Nat.succ_pos _
      · cases h

/-- A chunk that is cut off is no longer than the limit. -/
theorem cutLength_le {limit : Int} (h : 0 < limit) (cs : List Char) :
    (cutLength limit cs : Int) ≤ limit := by
  unfold cutLength
  split
  · rename_i i hi
    have hlt := lt_length_of_lastNewline? hi
    rw [List.length_take, allowed, if_pos (by omega)] at hlt
    omega
  · rw [allowed, if_pos (by omega)]
    omega

/-- No chunk is longer than the limit. -/
theorem length_le_of_mem_chunksFrom {limit : Int} (h : 0 < limit) {cs chunk : List Char}
    (hchunk : chunk ∈ chunksFrom limit cs) : (chunk.length : Int) ≤ limit := by
  fun_induction chunksFrom limit cs with
  | case1 => cases hchunk
  | case2 cs _ short =>
    rw [List.mem_singleton.mp hchunk]
    exact short
  | case3 cs _ _ _ ih =>
    rcases List.mem_cons.mp hchunk with rfl | hrest
    · have hcut := cutLength_le h cs
      rw [List.length_take]
      omega
    · exact ih hrest
  | case4 cs _ long stuck => exact absurd (length_remainder_lt h (Int.not_le.mp long)) stuck

/-- No chunk is longer than the limit. -/
theorem length_le_of_mem_split {limit : Int} (h : 0 < limit) {s chunk : String}
    (hchunk : chunk ∈ split limit s) : (chunk.length : Int) ≤ limit := by
  obtain ⟨cs, hcs, rfl⟩ := List.mem_map.mp hchunk
  rw [String.length_ofList]
  unfold chunks at hcs
  split at hcs
  · rename_i hshort
    rw [List.mem_singleton.mp hcs]
    exact hshort
  · exact length_le_of_mem_chunksFrom h hcs

/-- Every text has a chunk. -/
theorem split_ne_nil {limit : Int} (h : 0 < limit) (s : String) : split limit s ≠ [] := by
  have hchunks : chunks limit s.toList ≠ [] := by
    unfold chunks
    split
    · exact List.cons_ne_nil _ _
    · rename_i hlong
      have hne : ¬s.toList.isEmpty = true := by
        intro hempty
        rw [List.isEmpty_iff.mp hempty, List.length_nil] at hlong
        omega
      unfold chunksFrom
      rw [if_neg hne, if_neg hlong, if_pos (length_remainder_lt h (Int.not_le.mp hlong))]
      exact List.cons_ne_nil _ _
  intro hsplit
  exact hchunks (List.map_eq_nil_iff.mp hsplit)

end ChatRelay.Chunk
