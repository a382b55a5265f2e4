import ChatRelay.Text.Quoted

/-!
# Texts with lone surrogates

Files in which characters are escaped may name a surrogate that has no partner. Such a code point
is no character, so a text that holds one is no text of characters. A wide text is a row of code
points of both kinds.

A wide text without lone surrogates is a text (`text_ofString`). Where only texts will do, two
surrogates that form a pair are the character of the pair, and the replacement character stands
for any other lone surrogate.
-/

namespace ChatRelay.Text

/-- A code point: a character, or a surrogate that stands alone. -/
inductive Point where
  | char (c : Char)
  | lone (code : Nat)
  deriving DecidableEq, Repr, Inhabited

namespace Point

/-- The code point with a number. -/
def ofCode (n : Nat) : Point := if n.isValidChar then .char (Char.ofNat n) else .lone n

/-- The character, if the code point is one. -/
def char? : Point → Option Char
  | char c => some c
  | lone _ => none

/-- The character that is shown for a code point. -/
def shown : Point → Char
  | char c => c
  | lone _ => '\ufffd'

/-- A code point inside quotes. -/
def quote (mark : Char) : Point → List Char
  | char c => quoteChar mark c
  | lone code => '\\' :: 'u' :: hexDigits 4 code

end Point

/-- A text that may hold lone surrogates. -/
abbrev Wide := List Point

namespace Wide

/-- Characters as a wide text. -/
def ofChars (cs : List Char) : Wide := cs.map .char

/-- A text as a wide text. -/
def ofString (s : String) : Wide := ofChars s.toList

instance : Coe String Wide := ⟨ofString⟩

/-- The characters of a wide text, if it has no lone surrogates. -/
def chars? (w : Wide) : Option (List Char) := w.mapM Point.char?

/-- The text that a wide text is, if it has no lone surrogates. -/
def text? (w : Wide) : Option String := w.chars?.map String.ofList

/-- The character of two code points that form a surrogate pair. -/
def pair? : Point → Point → Option Point
  | .lone high, .lone low =>
    if 0xd800 ≤ high ∧ high < 0xdc00 ∧ 0xdc00 ≤ low ∧ low < 0xe000 then
      some (.ofCode (0x10000 + (high - 0xd800) * 0x400 + (low - 0xdc00)))
    else none
  | _, _ => none

/-- The wide text in which a surrogate pair is one character. -/
def joined : Wide → Wide
  | [] => []
  | [p] => [p]
  | p :: q :: rest =>
    match pair? p q with
    | some c => c :: joined rest
    | none => p :: joined (q :: rest)

/-- The text that is shown for a wide text. -/
def text (w : Wide) : String := String.ofList (w.joined.map Point.shown)

/-- The place of the first lone surrogate, which is the length of a text without any. -/
def loneStart (w : Wide) : Nat := (w.takeWhile fun p => p.char?.isSome).length

/-- The place behind the first row of lone surrogates. -/
def loneEnd (w : Wide) : Nat :=
  w.loneStart + ((w.drop w.loneStart).takeWhile fun p => p.char?.isNone).length

/-- A wide text between quotes. -/
def quoted (w : Wide) : String :=
  let mark := quoteMark (w.filterMap Point.char?)
  String.ofList (mark :: w.flatMap (Point.quote mark) ++ [mark])

/-- Characters form no surrogate pairs. -/
@[simp]
theorem joined_ofChars (cs : List Char) : joined (ofChars cs) = ofChars cs := by
  induction cs with
  | nil => rfl
  | cons c cs ih =>
    cases cs with
    | nil => rfl
    | cons d cs => exact congrArg (Point.char c :: ·) ih

/-- A wide text of characters is the text of these characters. -/
@[simp]
theorem text_ofString (s : String) : text (ofString s) = s := by
  have h : (Point.shown ∘ Point.char) = id := rfl
  simp only [text, ofString, joined_ofChars]
  simp [ofChars, h]

end Wide

end ChatRelay.Text
