import ChatRelay.Dialogue

/-!
# Attempts

An attempt is a dialogue that may fail. In a sequence of attempts the first failure ends the
whole.
-/

namespace ChatRelay

/-- A dialogue that may fail. -/
abbrev Attempt (P : Service) := ExceptT Failure (Dialogue P)

namespace Attempt

variable {P : Service} {α : Type}

/-- Makes one request, and fails where it fails. -/
def ask (q : P.Request) : Attempt P (P.Value q) := ExceptT.mk (Dialogue.request q)

/-- Goes on with a value, or fails. -/
def ofExcept (r : Except Failure α) : Attempt P α := ExceptT.mk (.done r)

end Attempt

end ChatRelay
