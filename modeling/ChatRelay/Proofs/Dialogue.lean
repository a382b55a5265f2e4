import ChatRelay.Dialogue

/-!
# What a dialogue asks

Properties of a dialogue that hold whatever the replies are: it asks nothing, it asks one thing
exactly once, or all that it asks has a property. The last one goes through the operations on
dialogues: `asks_bind`, `asks_notes` and `asks_via`.
-/

namespace ChatRelay.Dialogue

variable {P Q : Service} {α β : Type}

/-- Nothing is asked. -/
def Quiet : Dialogue P α → Prop
  | done _ => True
  | say _ rest => rest.Quiet
  | ask _ _ => False

/-- This is asked once, whatever the reply is, and nothing else. -/
def AsksOnce (q : P.Request) : Dialogue P α → Prop
  | done _ => False
  | say _ rest => rest.AsksOnce q
  | ask q' rest => q' = q ∧ ∀ r, (rest r).Quiet

/-- All that is asked has a property. -/
def Asks (p : P.Request → Prop) : Dialogue P α → Prop
  | done _ => True
  | say _ rest => rest.Asks p
  | ask q rest => p q ∧ ∀ r, (rest r).Asks p

section Asks

variable {p : P.Request → Prop}

/-- What follows from a property of the requests holds of them as well. -/
theorem Asks.mono {r : P.Request → Prop} {d : Dialogue P α} (hd : d.Asks p)
    (h : ∀ q, p q → r q) : d.Asks r := by
  induction d with
  | done a => trivial
  | say line rest ih => exact ih hd
  | ask q rest ih => exact ⟨h q hd.1, fun reply => ih reply (hd.2 reply)⟩

/-- A dialogue that goes on with another one asks what the two ask. -/
theorem asks_bind {d : Dialogue P α} {f : α → Dialogue P β} (hd : d.Asks p)
    (hf : ∀ a, (f a).Asks p) : (d.bind f).Asks p := by
  induction d with
  | done a => exact hf a
  | say line rest ih => exact ih hd
  | ask q rest ih => exact ⟨hd.1, fun r => ih r (hd.2 r)⟩

/-- Writing to the log asks nothing. -/
theorem asks_notes (lines : List String) : (notes lines : Dialogue P Unit).Asks p := by
  induction lines with
  | nil => trivial
  | cons line rest ih => exact ih

/-- A dialogue by way of another service asks what stands there for its requests. -/
theorem asks_via {q : Q.Request → Prop} {through : (r : P.Request) → Dialogue Q (P.Reply r)}
    {d : Dialogue P α} (hd : d.Asks p) (ht : ∀ r, p r → (through r).Asks q) :
    (d.via through).Asks q := by
  induction d with
  | done a => trivial
  | say line rest ih => exact ih hd
  | ask r rest ih => exact asks_bind (ht r hd.1) fun reply => ih reply (hd.2 reply)

/-- By way of another service a dialogue goes on with what it goes on with. -/
theorem via_bind (through : (r : P.Request) → Dialogue Q (P.Reply r)) (d : Dialogue P α)
    (f : α → Dialogue P β) :
    (d.bind f).via through = (d.via through).bind fun a => (f a).via through := by
  induction d with
  | done a => rfl
  | say line rest ih => exact congrArg (say line) ih
  | ask r rest ih =>
    have hrest : (fun reply => ((rest reply).bind f).via through) =
        fun reply => ((rest reply).via through).bind fun a => (f a).via through := funext ih
    rw [bind, via, via, hrest, bind_assoc]

/-- Every dialogue asks something or nothing. -/
theorem asks_true (d : Dialogue P α) : d.Asks fun _ => True := by
  induction d with
  | done a => trivial
  | say line rest ih => exact ih
  | ask q rest ih => exact ⟨trivial, ih⟩

end Asks

end ChatRelay.Dialogue
