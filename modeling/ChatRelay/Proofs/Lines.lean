import ChatRelay.Text.Lines

/-!
# Cutting and joining lines

A line is a text without a newline. Cutting a text gives lines, and joining them gives the text
back; joining lines and cutting the text gives the lines back, provided that there is one at
least.
-/

namespace ChatRelay.Text

/-- A text without a newline. -/
def IsLine (s : String) : Prop := '\n' ∉ s.toList

instance (s : String) : Decidable (IsLine s) := inferInstanceAs (Decidable ('\n' ∉ s.toList))

/-- Two texts are one line where each of them is. -/
theorem isLine_append {s t : String} : IsLine (s ++ t) ↔ IsLine s ∧ IsLine t := by
  simp only [IsLine, String.toList_append, List.mem_append, not_or]

/-- Lines are what is between the newlines. -/
theorem lines_eq_splitOn (cs : List Char) : lines cs = cs.splitOn '\n' := by
  induction cs with
  | nil => rfl
  | cons c cs ih =>
    rw [lines_cons, ih, List.splitOn_cons_eq_if_modifyHead]
    cases hsplit : cs.splitOn '\n' with
    | nil => exact absurd hsplit (List.splitOn_ne_nil _ _)
    | cons line rest =>
      by_cases hc : c = '\n'
      · simp [consLine, hc]
      · simp [consLine, hc]

/-- A text without a newline is one line. -/
theorem lines_of_not_mem {cs : List Char} (h : '\n' ∉ cs) : lines cs = [cs] := by
  have hcut := List.splitOn_intercalate '\n' (List.forall_mem_singleton.mpr h)
    (List.cons_ne_nil cs [])
  rwa [List.intercalate_singleton, ← lines_eq_splitOn] at hcut

/-- A newline ends a line. -/
theorem lines_append_newline (cs cs' : List Char) :
    lines (cs ++ '\n' :: cs') = lines cs ++ lines cs' := by
  simp only [lines_eq_splitOn]
  exact List.splitOn_append_cons_self cs cs'

/-- The first line of a text goes to its end, or to the first newline. -/
theorem split_of_lines {cs line : List Char} {more : List (List Char)}
    (h : lines cs = line :: more) :
    cs = line ∧ more = [] ∨ ∃ tail, cs = line ++ '\n' :: tail ∧ lines tail = more := by
  by_cases hmem : '\n' ∈ cs
  · obtain ⟨first, tail, rfl, hfirst⟩ := List.eq_append_cons_of_mem hmem
    rw [lines_append_newline, lines_of_not_mem hfirst] at h
    cases h
    exact .inr ⟨tail, rfl, rfl⟩
  · rw [lines_of_not_mem hmem] at h
    cases h
    exact .inl ⟨rfl, rfl⟩

/-- A line before others stands there with a newline behind it. -/
theorem unlines_cons (line : List Char) {ls : List (List Char)} (hne : ls ≠ []) :
    unlines (line :: ls) = line ++ '\n' :: unlines ls := by
  cases ls with
  | nil => exact absurd rfl hne
  | cons next rest =>
    rw [unlines, List.intercalate_cons_cons, List.append_assoc]
    rfl

/-- The lines of texts that are joined with newlines are the lines of each of them. -/
theorem lines_unlines {ls : List (List Char)} (hne : ls ≠ []) :
    lines (unlines ls) = ls.flatMap lines := by
  induction ls with
  | nil => exact absurd rfl hne
  | cons line rest ih =>
    rw [List.flatMap_cons]
    by_cases hrest : rest = []
    · rw [hrest, unlines, List.intercalate_singleton, List.flatMap_nil, List.append_nil]
    · rw [unlines_cons line hrest, lines_append_newline, ih hrest]

/-- What stands in a piece stands in the pieces put together. -/
theorem mem_intercalate {sep piece : List Char} {pieces : List (List Char)} {c : Char}
    (h : piece ∈ pieces) (hc : c ∈ piece) : c ∈ sep.intercalate pieces := by
  induction pieces with
  | nil => cases h
  | cons first rest ih =>
    cases rest with
    | nil =>
      rw [List.mem_singleton] at h
      rw [List.intercalate_singleton, ← h]
      exact hc
    | cons second rest =>
      rw [List.intercalate_cons_cons, List.mem_append]
      rcases List.mem_cons.mp h with rfl | h
      · exact .inl (List.mem_append_left _ hc)
      · exact .inr (ih h)

/-- What is in a list with separators is a separator or in the list. -/
theorem mem_intersperse {α : Type} {sep x : α} {xs : List α} (h : x ∈ xs.intersperse sep) :
    x = sep ∨ x ∈ xs := by
  induction xs with
  | nil => cases h
  | cons y ys ih =>
    cases ys with
    | nil => exact .inr h
    | cons z zs =>
      rw [List.intersperse_cons_cons] at h
      rcases List.mem_cons.mp h with rfl | h
      · exact .inr List.mem_cons_self
      · rcases List.mem_cons.mp h with rfl | h
        · exact .inl rfl
        · exact (ih h).imp_right (List.mem_cons_of_mem y)

/-- What stands in no piece and not between them does not stand in the pieces put together. -/
theorem not_mem_intercalate {sep : List Char} {pieces : List (List Char)} {c : Char}
    (hsep : c ∉ sep) (h : ∀ piece ∈ pieces, c ∉ piece) : c ∉ sep.intercalate pieces := by
  intro hmem
  obtain ⟨piece, hpiece, hc⟩ := List.mem_flatten.mp hmem
  rcases mem_intersperse hpiece with rfl | hpiece
  · exact hsep hc
  · exact h piece hpiece hc

/-- No piece of a text holds the character that the text is cut at. -/
theorem not_mem_of_mem_splitOn {sep : Char} {cs piece : List Char} (h : piece ∈ cs.splitOn sep) :
    sep ∉ piece := by
  induction cs generalizing piece with
  | nil =>
    rw [List.splitOn_nil, List.mem_singleton] at h
    rw [h]
    exact List.not_mem_nil
  | cons c cs ih =>
    rw [List.splitOn_cons_eq_if_modifyHead] at h
    split at h
    · rcases List.mem_cons.mp h with rfl | h
      · exact List.not_mem_nil
      · exact ih h
    · rename_i hc
      cases hsplit : cs.splitOn sep with
      | nil => exact absurd hsplit (List.splitOn_ne_nil _ _)
      | cons first rest =>
        rw [hsplit] at h ih
        rcases List.mem_cons.mp h with rfl | h
        · refine List.not_mem_cons_of_ne_of_not_mem (fun hsep => hc ?_) (ih List.mem_cons_self)
          exact beq_iff_eq.mpr hsep.symm
        · exact ih (List.mem_cons_of_mem _ h)

/-- What stands in a line stands in the text. -/
theorem mem_of_mem_lines {cs line : List Char} {c : Char} (h : line ∈ lines cs) (hc : c ∈ line) :
    c ∈ cs := by
  rw [← unlines_lines cs]
  exact mem_intercalate h hc

/-- No line of a text holds a newline. -/
theorem newline_not_mem_of_mem_lines {cs line : List Char} (h : line ∈ lines cs) :
    '\n' ∉ line :=
  not_mem_of_mem_splitOn (lines_eq_splitOn cs ▸ h)

/-- Each line of a text is one line. -/
theorem isLine_of_mem_splitLines {s line : String} (h : line ∈ splitLines s) : IsLine line := by
  obtain ⟨cs, hcs, rfl⟩ := List.mem_map.mp h
  rw [IsLine, String.toList_ofList]
  exact newline_not_mem_of_mem_lines hcs

/-- Lists of characters are those of the texts that they make up. -/
theorem map_toList_ofList (ls : List (List Char)) :
    (ls.map String.ofList).map String.toList = ls := by
  rw [List.map_map]
  exact List.map_id'' (fun _ => String.toList_ofList) ls

/-- Texts are made up of their characters. -/
theorem map_ofList_toList (ls : List String) : (ls.map String.toList).map String.ofList = ls := by
  rw [List.map_map]
  exact List.map_id'' (fun _ => String.ofList_toList) ls

/-- Lines are put together as their characters are. -/
theorem toList_joinLines (ls : List String) :
    (joinLines ls).toList = unlines (ls.map String.toList) :=
  String.toList_intercalate

/-- Joining the lines of a text gives the text back. -/
theorem joinLines_splitLines (s : String) : joinLines (splitLines s) = s := by
  apply String.toList_injective
  rw [toList_joinLines, splitLines, map_toList_ofList, unlines_lines]

/-- Cutting joined lines gives the lines back. -/
theorem splitLines_joinLines {ls : List String} (hne : ls ≠ []) (hlines : ∀ l ∈ ls, IsLine l) :
    splitLines (joinLines ls) = ls := by
  have hnewline : ∀ cs ∈ ls.map String.toList, '\n' ∉ cs := by
    intro cs hcs
    obtain ⟨l, hl, rfl⟩ := List.mem_map.mp hcs
    exact hlines l hl
  have hcut : lines (unlines (ls.map String.toList)) = ls.map String.toList := by
    rw [lines_eq_splitOn]
    exact List.splitOn_intercalate '\n' hnewline fun h => hne (List.map_eq_nil_iff.mp h)
  rw [splitLines, toList_joinLines, hcut, map_ofList_toList]

/-- The lines of texts that are joined with newlines are the lines of each of them. -/
theorem splitLines_joinLines_flatMap {ls : List String} (hne : ls ≠ []) :
    splitLines (joinLines ls) = ls.flatMap splitLines := by
  have hmap : ls.map String.toList ≠ [] := fun hnil => hne (List.map_eq_nil_iff.mp hnil)
  rw [splitLines, toList_joinLines, lines_unlines hmap, List.flatMap_map, List.map_flatMap]
  rfl

/-- A newline at the end of a text is followed by an empty line. -/
theorem splitLines_append_newline (s : String) : splitLines (s ++ "\n") = splitLines s ++ [""] := by
  have hlines := lines_append_newline s.toList []
  rw [splitLines, String.toList_append, show "\n".toList = ['\n'] from rfl, hlines, lines_nil,
    List.map_append]
  rfl

/-- A line is the only one of its text. -/
theorem splitLines_of_isLine {s : String} (h : IsLine s) : splitLines s = [s] := by
  have hjoin : joinLines [s] = s := by
    apply String.toList_injective
    rw [toList_joinLines, List.map_singleton, unlines, List.intercalate_singleton]
  have hsplit := splitLines_joinLines (List.cons_ne_nil s []) (List.forall_mem_singleton.mpr h)
  rwa [hjoin] at hsplit

end ChatRelay.Text
