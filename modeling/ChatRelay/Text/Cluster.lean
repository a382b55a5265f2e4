import ChatRelay.Text.Cluster.Break

/-!
# Grapheme clusters

What a reader takes for one character may be several: a letter with its accents, a flag, an
emoji with a skin tone, a family of emoji held together by joiners. A grapheme cluster is such
a unit, cut out by the rules for extended grapheme clusters of the Unicode text segmentation
standard; conjuncts of the Indic scripts are not held together.

Whether a cluster goes on is decided by what was read of it so far, summed up in a `State`, and
by the next character, so the cut is one pass over the text. The clusters of a text put
together again are the text (`flatten_clusters`).
-/

namespace ChatRelay.Text.Cluster

/-- What was read of an open cluster: the class of its last character, whether it ends in a
pictograph with any number of extending characters, whether it ends in that followed by a
joiner, and whether it ends in an odd number of regional indicators. -/
structure State where
  last : Break
  pictograph : Bool
  pictographJoiner : Bool
  oddRegional : Bool
  deriving DecidableEq, Repr

/-- The state of a cluster that so far holds one character. -/
def State.start (b : Break) : State :=
  { last := b
    pictograph := b = .pictograph
    pictographJoiner := false
    oddRegional := b = .regional }

/-- The state of a cluster after one more character. -/
def State.push (s : State) (b : Break) : State :=
  { last := b
    pictograph := b = .pictograph || (s.pictograph && b = .extend)
    pictographJoiner := s.pictograph && b = .joiner
    oddRegional := b = .regional && !s.oddRegional }

/-- Whether a character of this class always stands apart from what follows and precedes it. -/
def Break.standsApart (b : Break) : Bool :=
  b = .carriageReturn || b = .newline || b = .control

/-- Whether a Hangul syllable goes on from a character of the first class with one of the
second. -/
def Break.syllableGoesOn : Break → Break → Bool
  | .leading, b => b = .leading || b = .vowel || b = .leadingVowel || b = .leadingVowelTrailing
  | .leadingVowel, b | .vowel, b => b = .vowel || b = .trailing
  | .leadingVowelTrailing, b | .trailing, b => b = .trailing
  | _, _ => false

/-- Whether the open cluster goes on with a character of this class. -/
def State.joins (s : State) (b : Break) : Bool :=
  if s.last = .carriageReturn && b = .newline then true
  else if s.last.standsApart || b.standsApart then false
  else s.last.syllableGoesOn b
    || b = .extend || b = .joiner || b = .spacing
    || s.last = .prepended
    || (s.pictographJoiner && b = .pictograph)
    || (s.oddRegional && b = .regional)

/-- The clusters of a text that goes on from an open cluster; `held` holds the characters of
the open cluster, the last one first. -/
def clustersFrom (s : State) (held : List Char) : List Char → List (List Char)
  | [] => [held.reverse]
  | c :: rest =>
    if s.joins (.of c) then clustersFrom (s.push (.of c)) (c :: held) rest
    else held.reverse :: clustersFrom (.start (.of c)) [c] rest

/-- The grapheme clusters of a text, in order. -/
def clusters : List Char → List (List Char)
  | [] => []
  | c :: rest => clustersFrom (.start (.of c)) [c] rest

/-- The clusters from here on hold all characters that are left, with those of the open cluster
before them. -/
theorem flatten_clustersFrom (s : State) (held rest : List Char) :
    (clustersFrom s held rest).flatten = held.reverse ++ rest := by
  induction rest generalizing s held with
  | nil => simp [clustersFrom]
  | cons c rest ih =>
    unfold clustersFrom
    split
    · rw [ih]; simp
    · rw [List.flatten_cons, ih]; simp

/-- The clusters of a text put together again are the text. -/
theorem flatten_clusters (cs : List Char) : (clusters cs).flatten = cs := by
  cases cs with
  | nil => rfl
  | cons c rest => simp [clusters, flatten_clustersFrom]

end ChatRelay.Text.Cluster
