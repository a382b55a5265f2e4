import ChatRelay.Text.Lines
import ChatRelay.Text.Wide

/-!
# Text files

A text file holds its text in UTF-8. When it is read, every carriage return counts as the end of
a line; when it is written, the text is written as it is.
-/

namespace ChatRelay.Text

/-- The bytes of a text. -/
def encode (s : String) : List UInt8 := s.toUTF8.toList

/-- The bytes of a wide text; there are none if it has lone surrogates. -/
def encodeWide? (w : Wide) : Option (List UInt8) := w.text?.map encode

/-- The text that bytes in UTF-8 stand for. -/
def decode? (bytes : List UInt8) : Option String := String.fromUTF8? ⟨bytes.toArray⟩

/-- The text of a text file. -/
def readFile? (bytes : List UInt8) : Option String :=
  (decode? bytes).map fun s => String.ofList (normalizeNewlines s.toList)

end ChatRelay.Text
