import ChatRelay.Directive
import ChatRelay.Directive.Reader

/-!
# Command lines

Nine forms of line are commands; every other line is text. Each form has a recogniser of its own,
which takes the parts of the command out of the line and looks at nothing else. What the parts
mean is decided later.
-/

namespace ChatRelay

/-- A line recognised as a command, with its parts as they are written. -/
inductive Command where
  | nop
  | reaction (messageId : String) (remove : Bool) (emoji : String)
  | history (arguments : String)
  | delete (messageId : String)
  | exec (messageId : String)
  | sendTo (channel content : String)
  | send (content : String)
  | media (path : String)
  | reactions (emojis : String)
  deriving DecidableEq, Repr, Inhabited

namespace Command

open Reader

/-- `!discord nop` -/
def nop? (cs : List Char) : Option Command :=
  (verb? "nop" cs).bind fun rest => if isLineEnd rest then some .nop else none

/-- Whether an emoji is to be taken off, which a minus sign before it says, and the emoji. -/
def splitMinus : List Char → Bool × List Char
  | '-' :: c :: rest => (true, c :: rest)
  | cs => (false, cs)

/-- `!discord reaction <message> <emoji>`, the emoji with an optional minus sign. -/
def reaction? (cs : List Char) : Option Command :=
  (verb? "reaction" cs).bind fun rest =>
  (blanks? rest).bind fun rest =>
  (digits? rest).bind fun read =>
  (argument? read.2).map fun argument =>
    .reaction (String.ofList read.1) (splitMinus argument).1 (String.ofList (splitMinus argument).2)

/-- `!discord history`, with anything behind it. -/
def history? (cs : List Char) : Option Command :=
  (verb? "history" cs).bind fun rest =>
  (lineRest? rest).map fun arguments => .history (String.ofList arguments)

/-- The message that a link to a message names. -/
def linkedMessage? (cs : List Char) : Option (List Char) :=
  (keyword? "https://discord.com/channels/" cs).bind fun rest =>
  (digits? rest).bind fun guild =>
  (keyword? "/" guild.2).bind fun rest =>
  (digits? rest).bind fun channel =>
  (keyword? "/" channel.2).bind lastDigits?

/-- `!discord delete <message>`, the message as its number or as a link. -/
def delete? (cs : List Char) : Option Command :=
  (verb? "delete" cs).bind fun rest =>
  (blanks? rest).bind fun rest =>
  ((linkedMessage? rest).or (lastDigits? rest)).map fun message => .delete (String.ofList message)

/-- `!discord exec <message>` -/
def exec? (cs : List Char) : Option Command :=
  (verb? "exec" cs).bind fun rest =>
  (blanks? rest).bind fun rest =>
  (lastDigits? rest).map fun message => .exec (String.ofList message)

/-- `!discord sendto <channel> <content>` -/
def sendTo? (cs : List Char) : Option Command :=
  (verb? "sendto" cs).bind fun rest =>
  (blanks? rest).bind fun rest =>
  (word? rest).bind fun channel =>
  (argument? channel.2).map fun content =>
    .sendTo (String.ofList channel.1) (String.ofList content)

/-- `!discord send <content>` -/
def send? (cs : List Char) : Option Command :=
  (verb? "send" cs).bind fun rest =>
  (argument? rest).map fun content => .send (String.ofList content)

/-- `media: <path>` -/
def media? (cs : List Char) : Option Command :=
  (keyword? "media:" cs).bind fun rest =>
  (argument? rest).map fun path => .media (String.ofList path)

/-- `reactions: <emojis>` -/
def reactions? (cs : List Char) : Option Command :=
  (keyword? "reactions:" cs).bind fun rest =>
  (argument? rest).map fun emojis => .reactions (String.ofList emojis)

/-- The recognisers, in the order in which they are tried. -/
def recognisers : List (List Char → Option Command) :=
  [nop?, reaction?, history?, delete?, exec?, sendTo?, send?, media?, reactions?]

/-- The command that a line is, if it is one. -/
def ofLine? (line : String) : Option Command :=
  recognisers.findSome? fun recognise => recognise line.toList

end Command

end ChatRelay
