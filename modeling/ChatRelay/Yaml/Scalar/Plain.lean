import ChatRelay.Yaml.Scalar.Quoted

/-!
# Plain scalars of YAML

A scalar without quotes ends where a comment, a colon before a blank, or a line that is not
indented enough begins; inside a flow collection it also ends at an indicator. Its line ends count
like those inside quotes. `fuel` bounds the number of steps; the
length of the text is always enough.
-/

namespace ChatRelay.Yaml

/-- Whether a character is an indicator inside a flow collection. -/
def isFlowIndicator (c : Char) : Bool :=
  c = ',' || c = '[' || c = ']' || c = '\x7b' || c = '\x7d'

/-- The length of the piece of a plain scalar that stands here. -/
def plainLength (flow : Bool) : List Char → Nat
  | [] => 0
  | x :: rest =>
    let next := rest.head?
    if endsToken (some x) then 0
    else if x = ':' && (endsToken next || (flow && (next.map isFlowIndicator).getD false)) then 0
    else if flow && (isFlowIndicator x || x = '?') then 0
    else plainLength flow rest + 1

/-- The empty lines inside a plain scalar; nothing is found where a document ends. -/
def plainBreaks : (fuel : Nat) → Cursor → Option (List Char) × Cursor
  | 0, c => (some [], c)
  | fuel + 1, c =>
    let c := c.skipSpaces
    let found := c.lineBreak
    if found.1.isEmpty then (some [], c)
    else if found.2.isAnyMarker then (none, found.2)
    else
      let r := plainBreaks fuel found.2
      (r.1.map (found.1 ++ ·), r.2)

/-- The spaces and line ends after a piece of a plain scalar, with whether a line ended. Nothing
is found where the scalar ends for sure. -/
def plainSpaces (fuel : Nat) (c : Cursor) : Option (List Char) × Bool × Cursor :=
  let spaces := c.span (· = ' ')
  let found := spaces.2.lineBreak
  if found.1.isEmpty then (if spaces.1.isEmpty then none else some spaces.1, false, spaces.2)
  else if found.2.isAnyMarker then (none, true, found.2)
  else
    let r := plainBreaks fuel found.2
    (r.1.map (folded found.1), true, r.2)

/-- A plain scalar inside the given indentation, with whether a line ended behind its last
piece. -/
def plainText (flow : Bool) (indent : Int) :
    (fuel : Nat) → (spaces : List Char) → (ended : Bool) → Cursor → List Char × Bool × Cursor
  | 0, _, ended, c => ([], ended, c)
  | fuel + 1, spaces, ended, c =>
    let length := plainLength flow c.rest
    if c.here = some '#' || length = 0 then ([], ended, c)
    else
      let piece := spaces ++ c.rest.take length
      let after := plainSpaces fuel (c.advanceBy length)
      match after.1 with
      | none => (piece, after.2.1, after.2.2)
      | some spaces =>
        if after.2.2.here = some '#' || (!flow && (after.2.2.column : Int) < indent) then
          (piece, after.2.1, after.2.2)
        else
          let r := plainText flow indent fuel spaces after.2.1 after.2.2
          (piece ++ r.1, r.2.1, r.2.2)

end ChatRelay.Yaml
