import ChatRelay.Directive.Reader

/-!
# References inside a command

A channel is named by a mention `<#digits>`, by a hash sign and a name, or by the bare name; the
content of a message may be the opening `<<word` of a heredoc.
-/

namespace ChatRelay.Reference

open Reader Text

/-- The digits of a channel mention. -/
def mention? (cs : List Char) : Option (List Char) :=
  (keyword? "<#" cs).bind fun rest =>
  (digits? rest).bind fun read =>
  (keyword? ">" read.2).bind fun rest => if isLineEnd rest then some read.1 else none

/-- The name behind a hash sign. -/
def hashName? (cs : List Char) : Option (List Char) :=
  (keyword? "#" cs).bind fun rest =>
  (word? rest).bind fun read => if isLineEnd read.2 then some read.1 else none

/-- The channel that a reference names: the digits of a mention, the name behind a hash sign, or
else the reference itself. -/
def channel (cs : List Char) : List Char := ((mention? cs).or (hashName? cs)).getD cs

/-- The channel that a reference names, as a text. -/
def channelText (ref : String) : String := String.ofList (channel ref.toList)

/-- The delimiter that the content of a message opens a heredoc with. -/
def delimiter? (content : String) : Option String :=
  (keyword? "<<" content.toList).bind fun rest =>
  (run? isWordChar rest).bind fun read =>
    if isLineEnd read.2 then some (String.ofList read.1) else none

end ChatRelay.Reference
