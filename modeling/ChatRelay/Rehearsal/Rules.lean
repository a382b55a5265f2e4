import ChatRelay.Discord.Refusal
import ChatRelay.Json.Writer

/-!
# Rules of a scripted partner

A script may say that a call fails and that a call waits for a gate. Calls are counted by method,
so a rule can name the first, the second or any later call of a method, and a rule about a
failure can also name an argument of the call.
-/

namespace ChatRelay.Rehearsal

/-- The failure that a script gives a kind and a message to. -/
def scriptedFailure (kind message : String) : Failure :=
  match Discord.status? (.service kind message) with
  | some status => Discord.refusal status message
  | none => .service kind message

/-- A rule that makes calls fail. -/
structure FailRule where
  method : String
  nth : Option Nat
  argument : Option Json
  failure : Failure

/-- A rule that makes a call wait for a gate. -/
structure GateRule where
  method : String
  nth : Nat
  gate : String

/-- The rules of a partner, and how often each method was called. -/
structure Rules where
  fails : List FailRule := []
  gates : List GateRule := []
  counts : List (String × Nat) := []
  deriving Inhabited

namespace Rules

/-- How often a method was called. -/
def count (r : Rules) (method : String) : Nat :=
  ((r.counts.find? fun c => c.1 == method).map (·.2)).getD 0

/-- One more call of a method: the rules after it, and its number. -/
def arrive (r : Rules) (method : String) : Rules × Nat :=
  let n := r.count method + 1
  ({ r with counts := (method, n) :: r.counts.filter fun c => c.1 != method }, n)

/-- Whether a rule is about a call. -/
def FailRule.holds (rule : FailRule) (method : String) (n : Nat) (arguments : List Json) : Bool :=
  rule.method == method && (rule.nth.map (· == n)).getD true &&
    (rule.argument.map fun a => arguments.any fun b => a.compact == b.compact).getD true

/-- The failure of a call, by the first rule that is about it. -/
def failure? (r : Rules) (method : String) (n : Nat) (arguments : List Json) : Option Failure :=
  (r.fails.find? fun rule => FailRule.holds rule method n arguments).map (·.failure)

/-- The gates that a call waits for. -/
def gatesOf (r : Rules) (method : String) (n : Nat) : List String :=
  (r.gates.filter fun rule => rule.method == method && rule.nth == n).map (·.gate)

end Rules

end ChatRelay.Rehearsal
