import ChatRelay.Text.Blank
import ChatRelay.Text.Decimal
import ChatRelay.Text.WordChar

/-!
# The pieces of a command line

A command line is read from the left: keywords, runs of blanks, runs of digits, and an argument
that goes to the end of the line. Each reader takes the characters that are left and returns what
it read, what is then left, or both; it returns nothing where its piece does not stand there.

A line may end with one newline, which belongs to no piece.
-/

namespace ChatRelay.Reader

open Text

/-- What is left after a keyword. -/
def keyword? (word : String) (cs : List Char) : Option (List Char) :=
  word.toList.isPrefixOf? cs

/-- What is left after a run of one or more blanks. -/
def blanks? : List Char → Option (List Char)
  | [] => none
  | c :: rest => if isBlank c then some (trimStart rest) else none

/-- The non-empty run of characters of a class that stands here, and what is left after it. -/
def run? (inClass : Char → Bool) (cs : List Char) : Option (List Char × List Char) :=
  if (cs.takeWhile inClass).isEmpty then none
  else some (cs.takeWhile inClass, cs.dropWhile inClass)

/-- A run of decimal digits. -/
def digits? (cs : List Char) : Option (List Char × List Char) := run? isDecimal cs

/-- A run of characters that are no blanks. -/
def word? (cs : List Char) : Option (List Char × List Char) := run? (fun c => !isBlank c) cs

/-- Whether the line ends here, perhaps with a newline. -/
def isLineEnd (cs : List Char) : Bool := cs.isEmpty || cs == ['\n']

/-- The characters up to the end of the line. -/
def lineRest? (cs : List Char) : Option (List Char) :=
  if isLineEnd (cs.dropWhile (· != '\n')) then some (cs.takeWhile (· != '\n')) else none

/-- The argument of a line of blanks: its last blank, as long as another blank stands before
that. -/
def blankArgument? (cs : List Char) : Option (List Char) :=
  let body := if cs.getLast? = some '\n' then cs.dropLast else cs
  if body.length < 2 then none
  else body.getLast?.bind fun c => if c = '\n' then none else some [c]

/-- The argument that goes to the end of the line, without the blanks before it. It is never
empty; where only blanks stand it is the last of them. -/
def argument? (cs : List Char) : Option (List Char) :=
  match blanks? cs with
  | none => none
  | some [] => blankArgument? cs
  | some rest => lineRest? rest

/-- What is left after `!discord` and a verb. -/
def verb? (verb : String) (cs : List Char) : Option (List Char) :=
  (keyword? "!discord" cs).bind fun rest => (blanks? rest).bind (keyword? verb)

/-- A run of decimal digits that the line ends with. -/
def lastDigits? (cs : List Char) : Option (List Char) :=
  (digits? cs).bind fun read => if isLineEnd read.2 then some read.1 else none

end ChatRelay.Reader
