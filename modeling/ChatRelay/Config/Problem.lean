/-!
# Problems of a configuration

Why a document is no configuration.
-/

namespace ChatRelay.Config

/-- Why a document is no configuration. -/
inductive Problem where
  | notMapping
  /-- A section of credentials is something else than a mapping. -/
  | sectionNotMapping (name : String)
  /-- A field that must be given is not. -/
  | missing (field : String)
  | noChannels
  | badChannel
  | engineNotMapping
  /-- A limit of the engine is no whole number from zero on. -/
  | badLimit (field : String)
  /-- A whole number that is to be shown has too many digits. -/
  | longNumber (limit : Nat)
  deriving DecidableEq, Repr, Inhabited

namespace Problem

/-- The kind of error that a problem is reported as. -/
def kind : Problem → String
  | sectionNotMapping _ => "AttributeError"
  | _ => "ValueError"

/-- The message of a problem. -/
def message : Problem → String
  | notMapping => "config must be a mapping"
  | sectionNotMapping name => s!"{name} must be a mapping"
  | missing field => s!"{field} is required"
  | noChannels => "channels must be a non-empty array"
  | badChannel => "Each channel must have name and skill"
  | engineNotMapping => "engine must be a mapping"
  | badLimit field => s!"engine.{field} must be a non-negative integer"
  | longNumber limit =>
    s!"Exceeds the limit ({limit} digits) for integer string conversion; " ++
      "use sys.set_int_max_str_digits() to increase the limit"

end Problem

end ChatRelay.Config
