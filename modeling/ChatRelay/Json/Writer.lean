import ChatRelay.Json

/-!
# Writing JSON

A text is written with the short escapes where there is one and with `\u` for the other control
characters; all other characters stand for themselves. `compact` writes a value on one line, with
escapes for lone surrogates; `writeTable` writes a flat object with one member on a line, in which
lone surrogates are left.
-/

namespace ChatRelay.Json

/-- One character inside quotes. -/
def escapeChar (c : Char) : List Char :=
  if c = '"' then ['\\', '"']
  else if c = '\\' then ['\\', '\\']
  else if c = '\n' then ['\\', 'n']
  else if c = '\r' then ['\\', 'r']
  else if c = '\t' then ['\\', 't']
  else if c = '\x08' then ['\\', 'b']
  else if c = '\x0c' then ['\\', 'f']
  else if c.toNat < 0x20 then ['\\', 'u'] ++ Text.hexDigits 4 c.toNat
  else [c]

/-- One code point inside quotes. -/
def escapePoint : Text.Point → Text.Wide
  | .char c => .ofChars (escapeChar c)
  | point => [point]

/-- A text between quotes. -/
def writeText (s : Text.Wide) : Text.Wide := .char '"' :: s.flatMap escapePoint ++ [.char '"']

/-- One member of a flat object on a line of its own. -/
def writeMember (m : Text.Wide × Text.Wide) : Text.Wide :=
  .ofChars [' ', ' '] ++ writeText m.1 ++ .ofChars [':', ' '] ++ writeText m.2

/-- The members of a flat object, each on a line. -/
def writeMembers : List (Text.Wide × Text.Wide) → Text.Wide
  | [] => []
  | [m] => writeMember m
  | m :: rest => writeMember m ++ .ofChars [',', '\n'] ++ writeMembers rest

/-- A flat object of texts, with one member on a line. -/
def writeTable (ms : List (Text.Wide × Text.Wide)) : Text.Wide :=
  match ms with
  | [] => .ofChars ['\x7b', '\x7d']
  | ms => .ofChars ['\x7b', '\n'] ++ writeMembers ms ++ .ofChars ['\n', '\x7d']

/-- A text between quotes without lone surrogates. -/
def compactText (s : Text.Wide) : String :=
  String.ofList ((writeText s).flatMap fun point =>
    match point with
    | .char c => [c]
    | .lone code => ['\\', 'u'] ++ Text.hexDigits 4 code)

mutual

/-- A value on one line. -/
def compact : Json → String
  | null => "null"
  | bool b => if b then "true" else "false"
  | integer n => toString n
  | decimal written => written
  | text s => compactText s
  | list items => "[" ++ compactItems items ++ "]"
  | object members => "\x7b" ++ compactMembers members ++ "\x7d"

/-- Values on one line, with commas between them. -/
def compactItems : List Json → String
  | [] => ""
  | [j] => compact j
  | j :: rest => compact j ++ "," ++ compactItems rest

/-- Members on one line, with commas between them. -/
def compactMembers : List (Text.Wide × Json) → String
  | [] => ""
  | [(key, j)] => compactText key ++ ":" ++ compact j
  | (key, j) :: rest =>
    compactText key ++ ":" ++ compact j ++ "," ++ compactMembers rest

end

end ChatRelay.Json
