import ChatRelay.Text.Quoted

/-!
# What a disk refuses

A request to the disk names a path, and the disk may refuse it. A refusal has a number, a name
and a text of its own, which are those of the operating system.
-/

namespace ChatRelay.Disk

/-- The contents of a file. -/
abbrev Bytes := List UInt8

/-- Why a request is refused. -/
inductive Cause where
  | missing
  | occupied
  | isDirectory
  | notDirectory
  | notEmpty
  | denied
  | busy
  | nameTooLong
  /-- Any other cause, such as a disk that is full, with its kind, its number and its text. -/
  | other (kind : String) (code : Nat) (text : String)
  deriving DecidableEq, Repr, Inhabited

namespace Cause

/-- The number of a cause. -/
def code : Cause → Nat
  | missing => 2
  | denied => 13
  | busy => 16
  | occupied => 17
  | notDirectory => 20
  | isDirectory => 21
  | nameTooLong => 36
  | notEmpty => 39
  | other _ code _ => code

/-- The text of a cause. -/
def text : Cause → String
  | missing => "No such file or directory"
  | denied => "Permission denied"
  | busy => "Device or resource busy"
  | occupied => "File exists"
  | notDirectory => "Not a directory"
  | isDirectory => "Is a directory"
  | nameTooLong => "File name too long"
  | notEmpty => "Directory not empty"
  | other _ _ text => text

/-- The kind of error that a cause is reported as. -/
def kind : Cause → String
  | missing => "FileNotFoundError"
  | denied => "PermissionError"
  | occupied => "FileExistsError"
  | notDirectory => "NotADirectoryError"
  | isDirectory => "IsADirectoryError"
  | busy | nameTooLong | notEmpty => "OSError"
  | other kind _ _ => kind

end Cause

/-- A refused request: the cause and the path that it concerns. -/
structure Refusal where
  cause : Cause
  path : String
  deriving DecidableEq, Repr, Inhabited

/-- The message of a refusal. -/
def Refusal.message (r : Refusal) : String :=
  s!"[Errno {r.cause.code}] {r.cause.text}: {Text.quoted r.path}"

end ChatRelay.Disk
