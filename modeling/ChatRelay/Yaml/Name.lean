import ChatRelay.Json.Reader
import ChatRelay.Text.Utf8
import ChatRelay.Yaml.Cursor

/-!
# Names in a YAML text

The names of anchors and aliases, and tags. A tag is written in full between angle brackets, or it
starts with a handle that stands for a longer text.
-/

namespace ChatRelay.Yaml

/-- Whether a character may stand in the name of an anchor. -/
def isNameChar (c : Char) : Bool := c.isAlphanum || c = '-' || c = '_'

/-- The name of an anchor or an alias, from its mark on. -/
def anchorName (c : Cursor) : Found String :=
  let name := c.advance.span isNameChar
  let follows := endsToken name.2.here ||
    (name.2.here.map fun x => "?:,]\x7d%@\x60".toList.contains x).getD false
  if name.1.isEmpty || !follows then .error .malformed else .ok (String.ofList name.1, name.2)

/-- Whether a character may stand in a tag as it is. -/
def isUriChar (c : Char) : Bool := c.isAlphanum || "-;/?:@&=+$,_.!~*\x27()[]".toList.contains c

/-- The bytes of escapes in a tag. -/
def uriEscapes : List Char → List UInt8 × List Char
  | '%' :: a :: b :: rest =>
    match Json.hexNumber? [a, b] with
    | some n =>
      let r := uriEscapes rest
      (UInt8.ofNat n :: r.1, r.2)
    | none => ([], '%' :: a :: b :: rest)
  | cs => ([], cs)

/-- The text of a tag. -/
def uriText : (fuel : Nat) → Cursor → Found (List Char)
  | 0, _ => .error .malformed
  | fuel + 1, c =>
    let piece := c.span isUriChar
    if piece.2.here = some '%' then
      let found := uriEscapes piece.2.rest
      match Text.decode? found.1 with
      | none | some "" => .error .malformed
      | some s =>
        (uriText fuel (piece.2.advanceBy (3 * found.1.length))).map fun r =>
          (piece.1 ++ s.toList ++ r.1, r.2)
    else .ok (piece.1, piece.2)

/-- The text of a tag, which must not be empty. -/
def uri (c : Cursor) : Found String :=
  (uriText (c.rest.length + 1) c).bind fun r =>
    if r.1.isEmpty then .error .malformed else .ok (String.ofList r.1, r.2)

/-- The handle of a tag: an exclamation mark before a space, or a name between two of them. -/
def tagHandle (c : Cursor) : Found String :=
  if c.here ≠ some '!' then .error .malformed
  else if c.peek 1 = some ' ' then .ok ("!", c.advance)
  else
    let name := c.advance.span isNameChar
    if name.2.here = some '!' then .ok ("!" ++ String.ofList name.1 ++ "!", name.2.advance)
    else .error .malformed

/-- A tag without a look at what follows it: its handle, if it has one, and the rest. -/
def tagBody (c : Cursor) : Found (Option String × String) :=
  match c.peek 1 with
  | some '<' =>
    (uri (c.advanceBy 2)).bind fun r =>
      if r.2.here = some '>' then .ok ((none, r.1), r.2.advance) else .error .malformed
  | next =>
    if endsToken next then .ok ((none, "!"), c.advance)
    else
      let word := c.advance.rest.takeWhile fun x => !endsWord (some x)
      let handle := if word.contains '!' then tagHandle c else .ok ("!", c.advance)
      handle.bind fun h => (uri h.2).map fun r => ((some h.1, r.1), r.2)

/-- A tag, from its exclamation mark on: its handle, if it has one, and the rest. -/
def tagText (c : Cursor) : Found (Option String × String) :=
  (tagBody c).bind fun r => if endsWord r.2.here then .ok r else .error .malformed

end ChatRelay.Yaml
