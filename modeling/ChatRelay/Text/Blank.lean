import ChatRelay.Text.Ranges

/-!
# Blanks, trimming and words

A blank is a white-space character of Unicode or one of the four information separators
U+001C to U+001F. Trimming drops the blanks at both ends of a text, and the words of a text
are its maximal runs of characters that are no blanks.
-/

namespace ChatRelay.Text

/-- The runs of blank characters. -/
def blankRanges : Ranges := [
  (0x9, 0xd), (0x1c, 0x20), (0x85, 0x85), (0xa0, 0xa0), (0x1680, 0x1680), (0x2000, 0x200a),
  (0x2028, 0x2029), (0x202f, 0x202f), (0x205f, 0x205f), (0x3000, 0x3000)]

/-- Whether a character is blank. Zero-width characters are not. -/
def isBlank (c : Char) : Bool := blankRanges.contains c.toNat

/-- The text without the blanks at its start. -/
def trimStart (cs : List Char) : List Char := cs.dropWhile isBlank

/-- The text without the blanks at its end. -/
def trimEnd (cs : List Char) : List Char := (cs.reverse.dropWhile isBlank).reverse

/-- The text without the blanks at its two ends. -/
def trim (cs : List Char) : List Char := trimEnd (trimStart cs)

/-- Whether a text holds nothing but blanks; the empty text does. -/
def allBlank (s : String) : Bool := s.toList.all isBlank

/-- One character put before a scanned text: the word that the text starts with, which is empty
where the text starts with a blank, and the words after it. -/
def scanWord (c : Char) (rest : List Char × List (List Char)) : List Char × List (List Char) :=
  if isBlank c then ([], if rest.1.isEmpty then rest.2 else rest.1 :: rest.2)
  else (c :: rest.1, rest.2)

/-- The maximal runs of characters that are no blanks, in order. -/
def words (cs : List Char) : List (List Char) :=
  let scanned := cs.foldr scanWord ([], [])
  if scanned.1.isEmpty then scanned.2 else scanned.1 :: scanned.2

end ChatRelay.Text
