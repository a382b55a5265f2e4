import ChatRelay.Failure

/-!
# Refusals of Discord

Discord refuses a request with a status, which the kind of the failure names, and a message.
-/

namespace ChatRelay.Discord

/-- The statuses that are told apart. -/
inductive Status where
  | notFound
  | forbidden
  | serverError
  deriving DecidableEq, Repr, Inhabited

/-- The kind of failure that a status is reported as. -/
def Status.kind : Status → String
  | notFound => "NotFound"
  | forbidden => "Forbidden"
  | serverError => "HTTPException"

/-- The status in words. -/
def Status.text : Status → String
  | notFound => "404 Not Found"
  | forbidden => "403 Forbidden"
  | serverError => "500 Server Error"

/-- The failure of a refused request. A refusal may have no message. -/
def refusal (status : Status) (message : String) : Failure :=
  .service status.kind
    (s!"{status.text} (error code: 0)" ++ if message = "" then "" else ": " ++ message)

/-- The status of a failure, if Discord refused a request. -/
def status? (f : Failure) : Option Status :=
  [Status.notFound, .forbidden, .serverError].find? fun status => status.kind == f.kind

end ChatRelay.Discord
