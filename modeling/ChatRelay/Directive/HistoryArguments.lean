import ChatRelay.Directive.Reference
import ChatRelay.Directive
import ChatRelay.Text.Numeral

/-!
# The arguments of a history command

The arguments are words in any order: a number of messages, a channel mention and an offset.
Where a kind of word is repeated the last one counts, and words of no kind count for nothing.
At most a hundred messages can be asked for.
-/

namespace ChatRelay.HistoryArguments

open Reader Text

/-- The most messages that one command can ask for. -/
def maxCount : Nat := 100

/-- What one word of the arguments says. -/
inductive Argument where
  | offset (digits : List Char)
  | channel (digits : List Char)
  | count (digits : List Char)
  deriving DecidableEq, Repr

/-- The digits of a word `offset:digits`. -/
def offset? (word : List Char) : Option (List Char) :=
  (keyword? "offset:" word).bind lastDigits?

/-- The kind of a word, if it has one. -/
def Argument.of? (word : List Char) : Option Argument :=
  ((offset? word).map .offset).or
    (((Reference.mention? word).map .channel).or ((lastDigits? word).map .count))

/-- The request after one more argument. -/
def Argument.apply (request : HistoryRequest) : Argument → Except Numeral.Refusal HistoryRequest
  | .offset digits => (Numeral.ofDigits digits).map fun n => { request with offset := n }
  | .channel digits => .ok { request with channel := some (String.ofList digits) }
  | .count digits =>
    (Numeral.ofDigits digits).map fun n => { request with count := (min n maxCount : Nat) }

/-- The request after these words. -/
def readWords (request : HistoryRequest) :
    List (List Char) → Except Numeral.Refusal HistoryRequest
  | [] => .ok request
  | word :: rest =>
    match Argument.of? word with
    | none => readWords request rest
    | some argument => (argument.apply request).bind fun request => readWords request rest

/-- The request that the arguments make. -/
def read (arguments : String) : Except Numeral.Refusal HistoryRequest :=
  readWords {} (words arguments.toList)

end ChatRelay.HistoryArguments
