import ChatRelay.Outside
import ChatRelay.Table
import ChatRelay.Text.Wide

/-!
# Session tables

A session table gives the name of the agent session of every channel that has one. The table is
read from a file that may name lone surrogates, so its texts are wide; what the relay sets is not.
-/

namespace ChatRelay

/-- The session of every channel that has one. -/
abbrev SessionTable := Table Text.Wide Text.Wide

namespace SessionTable

/-- The session of a channel, if it has one. -/
def session? (t : SessionTable) (channel : String) : Option String :=
  (t.get? channel).map Text.Wide.text

/-- The table after a change. -/
def apply (t : SessionTable) : SessionChange → SessionTable
  | .set channel session => t.set channel session
  | .delete channel => t.erase channel

end SessionTable

end ChatRelay
