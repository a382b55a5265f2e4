import ChatRelay.Text.Wide

/-!
# JSON values

The members of an object are kept in the order in which they are written, repeated keys included.
A number is an integer, or it keeps its written form. Texts are wide, since their escapes may
name lone surrogates.
-/

namespace ChatRelay

/-- A JSON value. -/
inductive Json where
  | null
  | bool (b : Bool)
  | integer (n : Int)
  /-- A number that is not written as an integer. -/
  | decimal (written : String)
  | text (s : Text.Wide)
  | list (items : List Json)
  | object (members : List (Text.Wide × Json))
  deriving Inhabited, Repr

namespace Json

/-- A text without lone surrogates. -/
def plain (s : String) : Json := .text s

/-- The text of a value that is a text. -/
def text? : Json → Option Text.Wide
  | text s => some s
  | _ => none

/-- The text of a value that is a text without lone surrogates. -/
def plain? (j : Json) : Option String := j.text?.bind Text.Wide.text?

/-- The members of a value that is an object. -/
def members : Json → List (Text.Wide × Json)
  | object ms => ms
  | _ => []

/-- The items of a value that is a list. -/
def items : Json → List Json
  | list js => js
  | _ => []

/-- The first member of an object with this key. -/
def member? (j : Json) (key : String) : Option Json :=
  let key : Text.Wide := key
  (j.members.find? fun m => m.1 == key).map Prod.snd

/-- Why a text is not read as a value. -/
inductive Refusal where
  /-- The text breaks a rule of the language. -/
  | malformed
  /-- A list or an object is nested too deeply. -/
  | tooDeep (isObject : Bool)
  deriving DecidableEq, Repr, Inhabited

/-- The message of a refusal. -/
def Refusal.message : Refusal → String
  | malformed => "the text is not a JSON document"
  | tooDeep isObject =>
    "maximum recursion depth exceeded while decoding a JSON " ++
      (if isObject then "object" else "array") ++ " from a unicode string"

end Json

end ChatRelay
