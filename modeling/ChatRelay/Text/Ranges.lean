/-!
# Sets of characters given by runs

The classes of characters that the relay asks about (blanks, decimal digits, word characters,
printable characters, the break classes of grapheme clusters) are unions of runs of consecutive
code points. A class is written as the list of its runs, each as its first and its last member.
-/

namespace ChatRelay.Text

/-- Runs of consecutive code points, each given by its first and its last member. -/
abbrev Ranges := List (Nat × Nat)

/-- Whether a code point lies in one of the runs. -/
def Ranges.contains (runs : Ranges) (n : Nat) : Bool :=
  runs.any fun run => decide (run.1 ≤ n) && decide (n ≤ run.2)

/-- A number is in the ranges where it is in one of the runs, whose ends belong to it. -/
theorem Ranges.contains_iff (runs : Ranges) (n : Nat) :
    runs.contains n = true ↔ ∃ run ∈ runs, run.1 ≤ n ∧ n ≤ run.2 := by
  simp [Ranges.contains]

end ChatRelay.Text
