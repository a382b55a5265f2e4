import ChatRelay.Startup

/-!
# The command line

Puts the relay together on the real disk, as its start does, and says which channels it serves, or
why it does not start. The path of the configuration is the first argument, if there is one.
-/

namespace ChatRelay.CommandLine

/-- The cause that an error of the operating system stands for. -/
def causeOf : IO.Error → Disk.Cause
  | .noFileOrDirectory _ _ _ | .noSuchThing _ _ _ => .missing
  | .alreadyExists _ _ _ => .occupied
  | .permissionDenied _ _ _ => .denied
  | .inappropriateType _ _ _ => .isDirectory
  | .resourceBusy _ _ => .busy
  | .unsatisfiedConstraints _ _ => .notEmpty
  | .resourceExhausted _ code details | .hardwareFault code details | .otherError code details =>
    .other "OSError" code.toNat details
  | _ => .denied

/-- Does something with the disk at a path. -/
def attempt {α : Type} (path : String) (work : IO α) : IO (Except Failure α) := do
  try
    return .ok (← work)
  catch e =>
    return .error (.disk ⟨causeOf e, path⟩)

/-- Whether something at a path can be opened. -/
def isThere (path : String) : IO Bool := do
  try
    let _ ← IO.FS.Handle.mk path .read
    return true
  catch _ =>
    return false

/-- How the real disk answers a request. -/
def answer : (q : Disk.Request) → IO (Disk.service.Reply q)
  | .isThere path => do return .ok (← isThere path)
  | .read path => attempt path do return (← IO.FS.readBinFile path).toList
  | .makeDirectory path => attempt path (IO.FS.createDirAll path)
  | .write path contents => attempt path (IO.FS.writeBinFile path ⟨contents.toArray⟩)
  | .rename source target => attempt source (IO.FS.rename source target)
  | .remove path => attempt path (IO.FS.removeFile path)

/-- Plays a dialogue with the real disk; the lines of the log go to the standard error. -/
def play {α : Type} : Dialogue Disk.service α → IO α
  | .done a => return a
  | .say line rest => do
    IO.eprintln line
    play rest
  | .ask q rest => do play (rest (← answer q))

/-- What is said about a channel that is served. -/
def describe (c : ChannelProfile) : String :=
  "#" ++ c.name ++ ": " ++ (if c.skill = "" then "no skill" else "skill " ++ c.skill) ++
    ", works in " ++ c.workdir

/-- Starts the relay and says which channels it serves, or why it did not start. -/
def run (args : List String) : IO UInt32 := do
  match ← play (Relay.start args.head? (← IO.getEnv Config.pathVariable)) with
  | .error failure =>
    IO.eprintln (failure.kind ++ ": " ++ failure.message)
    return 1
  | .ok relay =>
    for channel in relay.config.channels do
      IO.println (describe channel)
    return 0

end ChatRelay.CommandLine

/-- The command line of the relay. -/
def main (args : List String) : IO UInt32 := ChatRelay.CommandLine.run args
