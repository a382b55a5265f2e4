import ChatRelay.Config
import ChatRelay.Config.Problem
import ChatRelay.Document

/-!
# Reading a configuration

A configuration is read from a document, which must be a mapping. Its sections `discord` and
`claude` hold the credentials and the model, the list `channels` has a mapping for each channel,
and the section `engine` may change the settings of the engine. Fields that are not known are
ignored. The first problem, in this order, is reported.
-/

namespace ChatRelay.Config

/-- The text of a value. -/
def textOf (d : Document) : Except Problem String :=
  match d.shown? with
  | some s => .ok s
  | none => .error (.longNumber Text.Numeral.limit)

/-- The value of a key, if it is given. -/
def given? (d : Document) (key : String) : Option Document :=
  (d.member? key).filter Document.isGiven

/-- A section of credentials, if it is given. -/
def credentials (d : Document) (name : String) : Except Problem (Option Document) :=
  match given? d name with
  | none => .ok none
  | some s => if s.members?.isSome then .ok (some s) else .error (.sectionNotMapping name)

/-- A field of a section that must be given. -/
def required (name : String) (s : Option Document) (key : String) : Except Problem Document :=
  match s.bind fun s => given? s key with
  | some value => .ok value
  | none => .error (.missing (name ++ "." ++ key))

/-- The text of a field, if it is given. -/
def optional (d : Document) (key : String) : Except Problem (Option String) :=
  match given? d key with
  | some value => (textOf value).map some
  | none => .ok none

/-- The text of a field that must be a text. -/
def skillOf? (d : Document) : Option String :=
  match (d.member? "skill").map Document.root with
  | some (.text s) => some s.text
  | _ => none

/-- The profile of a channel: its name must be given, and its skill must be a text. -/
def readChannel (d : Document) : Except Problem ChannelProfile :=
  match given? d "name", skillOf? d with
  | some name, some skill => do
    let name ← textOf name
    let workdir ← optional d "workdir"
    let logChannel ← optional d "log_channel"
    return { name, skill, workdir := workdir.getD ".", logChannel }
  | _, _ => .error .badChannel

/-- The profiles of the channels, of which there must be one. -/
def readChannels (d : Document) : Except Problem (List ChannelProfile) :=
  match (d.member? "channels").bind Document.items? with
  | some (first :: rest) => (first :: rest).mapM readChannel
  | _ => .error .noChannels

/-- A limit of the engine. -/
def readLimit (d : Document) (key : String) (standard : Int) : Except Problem Int :=
  match (d.member? key).map Document.root with
  | none => .ok standard
  | some (.integer n) => if n < 0 then .error (.badLimit key) else .ok n
  | some _ => .error (.badLimit key)

/-- The path of a file or a directory of the engine. -/
def readPath (d : Document) (key : String) (standard : String) : Except Problem String :=
  match d.member? key with
  | none => .ok standard
  | some value => textOf value

/-- The settings of the engine that a mapping holds. -/
def readSettings (d : Document) : Except Problem EngineSettings := do
  let standard : EngineSettings := {}
  let maxDepth ← readLimit d "max_feedback_depth" standard.maxDepth
  let maxTurns ← readLimit d "max_iterations" standard.maxTurns
  let sessionsFile ← readPath d "sessions_file" standard.sessionsFile
  let promptFile ← readPath d "prompt_file" standard.promptFile
  let temporaryDirectory ← readPath d "tmp_dir" standard.temporaryDirectory
  return { maxDepth, maxTurns, sessionsFile, promptFile, temporaryDirectory }

/-- The settings of the engine. -/
def readEngine (d : Document) : Except Problem EngineSettings :=
  match d.member? "engine" with
  | none => .ok {}
  | some e =>
    match e.root with
    | .null => .ok {}
    | _ => if e.members?.isSome then readSettings e else .error .engineNotMapping

/-- The configuration that a document holds. -/
def ofDocument (d : Document) : Except Problem Config := do
  if d.members?.isNone then throw .notMapping
  let discord ← credentials d "discord"
  let token ← required "discord" discord "token"
  let operator ← required "discord" discord "user"
  let claude ← credentials d "claude"
  let model ← required "claude" claude "model"
  let channels ← readChannels d
  let token ← textOf token
  let operator ← textOf operator
  let model ← textOf model
  let engine ← readEngine d
  return { token, operator, model, channels, engine }

end ChatRelay.Config
