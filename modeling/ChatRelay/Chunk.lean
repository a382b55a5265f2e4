/-!
# Chunks of a long text

The chat platform takes messages of a limited length, so a longer text is sent in chunks. A chunk
that does not reach the end of the text goes up to its last newline that is not its first
character and that leaves no more than the limit before it; where there is none it has exactly
the limit. The newline at a cut belongs to no chunk. A limit below zero counts from the end of
what is left.
-/

namespace ChatRelay.Chunk

/-- The most characters that one message may have. -/
def maxLength : Nat := 2000

/-- The place of the last newline. -/
def lastNewline? : List Char → Option Nat
  | [] => none
  | c :: rest =>
    match lastNewline? rest with
    | some i => some (i + 1)
    | none => if c = '\n' then some 0 else none

/-- How many of `length` characters a bound allows. A bound below zero counts from the end. -/
def allowed (bound : Int) (length : Nat) : Nat :=
  if 0 ≤ bound then min bound.toNat length else (length + bound).toNat

/-- The length of the chunk that is cut off a text that is longer than the limit. -/
def cutLength (limit : Int) (cs : List Char) : Nat :=
  match lastNewline? (cs.take (allowed (limit + 1) cs.length)) with
  | some (i + 1) => i + 1
  | _ => allowed limit cs.length

/-- The text without a newline at its start. -/
def dropNewline : List Char → List Char
  | '\n' :: rest => rest
  | cs => cs

/-- What is left of a text that is longer than the limit when a chunk is cut off. -/
def remainder (limit : Int) (cs : List Char) : List Char :=
  dropNewline (cs.drop (cutLength limit cs))

/-- Dropping the newline at a cut makes the rest no longer. -/
theorem length_dropNewline_le (cs : List Char) : (dropNewline cs).length ≤ cs.length := by
  unfold dropNewline
  split <;> simp

/-- A cut takes at least one character where the limit allows one, so cutting a text comes to an
end. -/
theorem cutLength_pos {limit : Int} (h : 0 < limit) {cs : List Char} (hcs : limit < cs.length) :
    0 < cutLength limit cs := by
  unfold cutLength allowed
  split
  · omega
  · split <;> omega

/-- With a limit of at least one, cutting off a chunk leaves a shorter text. -/
theorem length_remainder_lt {limit : Int} (h : 0 < limit) {cs : List Char}
    (hcs : limit < cs.length) : (remainder limit cs).length < cs.length := by
  have hp := cutLength_pos h hcs
  have hl := length_dropNewline_le (cs.drop (cutLength limit cs))
  rw [List.length_drop] at hl
  unfold remainder
  omega

/-- The chunks of a text that is left to be sent. Where the limit is so low that nothing can be
cut off, the text is one chunk. -/
def chunksFrom (limit : Int) (cs : List Char) : List (List Char) :=
  if cs.isEmpty then []
  else if cs.length ≤ limit then [cs]
  else if (remainder limit cs).length < cs.length then
    cs.take (cutLength limit cs) :: chunksFrom limit (remainder limit cs)
  else [cs]
termination_by cs.length

/-- The chunks of a text; a text within the limit is one chunk, even when it is empty. -/
def chunks (limit : Int) (cs : List Char) : List (List Char) :=
  if cs.length ≤ limit then [cs] else chunksFrom limit cs

/-- The chunks of a text, each as a text. -/
def split (limit : Int) (s : String) : List String := (chunks limit s.toList).map String.ofList

end ChatRelay.Chunk
