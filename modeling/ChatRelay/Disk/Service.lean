import ChatRelay.Dialogue
import ChatRelay.Disk

/-!
# The disk as a service

What the relay asks of the disk. Paths are texts, as the operating system takes them.
-/

namespace ChatRelay.Disk

/-- A request to the disk. -/
inductive Request where
  /-- Whether something is at a path. -/
  | isThere (path : String)
  /-- The contents of a file. -/
  | read (path : String)
  /-- Makes a directory with all directories on the way to it; it may be there already. -/
  | makeDirectory (path : String)
  /-- Writes a file, which is made or replaced. -/
  | write (path : String) (contents : Bytes)
  /-- Moves a file to another path, where it replaces what is there. -/
  | rename (source target : String)
  /-- Removes a file. -/
  | remove (path : String)
  deriving DecidableEq, Repr, Inhabited

/-- The answer to a request. -/
def Value : Request → Type
  | .isThere _ => Bool
  | .read _ => Bytes
  | .makeDirectory _ => Unit
  | .write _ _ => Unit
  | .rename _ _ => Unit
  | .remove _ => Unit

/-- The disk as a service. -/
def service : Service := ⟨Request, Value⟩

end ChatRelay.Disk
