import ChatRelay.Config.Reader
import ChatRelay.Disk.Service
import ChatRelay.Path
import ChatRelay.Text.Utf8
import ChatRelay.Yaml.Value

/-!
# The configuration file

The configuration is a YAML file. Its path is the one that the relay is started with, or that of
the environment, or a standard one; an empty path counts as none.
-/

namespace ChatRelay.Config

/-- The variable of the environment that may hold the path of the configuration. -/
def pathVariable : String := "CLAW_RELAY_CONFIG"

/-- The standard path of the configuration. -/
def standardPath : String := ".env.yaml"

/-- The path of the configuration. -/
def choosePath (given environment : Option String) : String :=
  ((given.filter (· ≠ "")).or (environment.filter (· ≠ ""))).getD standardPath

/-- The configuration that the contents of a file hold. -/
def ofContents (contents : Disk.Bytes) : Except Failure Config := do
  match Text.readFile? contents with
  | none => throw .undecodable
  | some text =>
    let document ← (Document.ofYaml text).mapError .yaml
    (ofDocument document).mapError .config

/-- Reads the configuration. -/
def load (given environment : Option String) : Dialogue Disk.service (Except Failure Config) := do
  let path := (Path.ofText (choosePath given environment)).toText
  match ← Dialogue.request (P := Disk.service) (.read path) with
  | .error e => return .error e
  | .ok contents => return ofContents contents

end ChatRelay.Config
