/-!
# Lines

A text is cut at its newline characters, so a text with `n` of them has `n + 1` lines, and the
empty text is one empty line. Joining the lines with newlines gives the text back. A text file
may also end its lines with a carriage return, alone or before a newline; `normalizeNewlines`
turns both into a newline.
-/

namespace ChatRelay.Text

/-- One character put before lines that are already cut. -/
def consLine (c : Char) : List (List Char) → List (List Char)
  | [] => if c = '\n' then [[], []] else [[c]]
  | line :: rest => if c = '\n' then [] :: line :: rest else (c :: line) :: rest

/-- The lines of a text. -/
def lines (cs : List Char) : List (List Char) := cs.foldr consLine [[]]

/-- The text with these lines. -/
def unlines (ls : List (List Char)) : List Char := List.intercalate ['\n'] ls

/-- The lines of a text, as texts. -/
def splitLines (s : String) : List String := (lines s.toList).map String.ofList

/-- The text with these lines, each a text. -/
def joinLines (ls : List String) : String := String.intercalate "\n" ls

/-- The text with every carriage return, and the newline right after it, read as one newline. -/
def normalizeNewlines : List Char → List Char
  | [] => []
  | '\r' :: '\n' :: rest => '\n' :: normalizeNewlines rest
  | c :: rest => (if c = '\r' then '\n' else c) :: normalizeNewlines rest

/-- The empty text is one empty line. -/
theorem lines_nil : lines [] = [[]] := rfl

/-- A character before a text starts its first line, and a newline puts an empty line before it. -/
theorem lines_cons (c : Char) (cs : List Char) : lines (c :: cs) = consLine c (lines cs) := rfl

/-- Every text has a line. -/
theorem lines_ne_nil (cs : List Char) : lines cs ≠ [] := by
  cases cs with
  | nil => simp [lines]
  | cons c cs =>
    rw [lines_cons]
    cases lines cs <;> simp only [consLine] <;> split <;> simp

/-- Joining the lines of a text with newlines gives the text back. -/
theorem unlines_lines (cs : List Char) : unlines (lines cs) = cs := by
  induction cs with
  | nil => rfl
  | cons c cs ih =>
    rw [lines_cons]
    cases h : lines cs with
    | nil => exact absurd h (lines_ne_nil cs)
    | cons line rest =>
      rw [h] at ih
      by_cases hc : c = '\n'
      · subst hc
        simp only [consLine, if_true]
        rw [← ih]
        simp [unlines, List.intercalate]
      · simp only [consLine, hc, if_false]
        rw [← ih]
        cases rest <;> simp [unlines, List.intercalate]

end ChatRelay.Text
