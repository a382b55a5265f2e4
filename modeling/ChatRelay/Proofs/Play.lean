import ChatRelay.Machine
import ChatRelay.Proofs.Dialogue

/-!
# How dialogues and machines go

A dialogue goes one way for every choice of the replies: `Dialogue.Plays` relates it to the record
of what is said and asked on such a way and to the result at its end. A way of going on with
another dialogue is a way of the first one and then a way of the other (`plays_bind`). `Yields` and
`Says` are what holds of the results and of the log lines on all ways.

`Step.Runs` is the same for a machine that finishes. The way of a machine that runs inside another
one is a part of the way of the other (`Step.Runs.inside`).
-/

namespace ChatRelay

namespace Dialogue

variable {P Q : Service} {α β : Type}

/-- A way that a dialogue can go: the record of what is said and asked, and the result. -/
inductive Plays : Dialogue P α → List (Event P) → α → Prop where
  | done (a : α) : Plays (done a) [] a
  | say {line : String} {rest : Dialogue P α} {os : List (Event P)} {a : α}
      (played : Plays rest os a) : Plays (say line rest) (.said line :: os) a
  | ask {q : P.Request} {rest : P.Reply q → Dialogue P α} {os : List (Event P)} {a : α}
      (reply : P.Reply q) (played : Plays (rest reply) os a) :
      Plays (ask q rest) (.asked q reply :: os) a

/-- All results have a property. -/
def Yields (p : α → Prop) : Dialogue P α → Prop
  | done a => p a
  | say _ rest => rest.Yields p
  | ask _ rest => ∀ r, (rest r).Yields p

/-- All log lines have a property. -/
def Says (p : String → Prop) : Dialogue P α → Prop
  | done _ => True
  | say line rest => p line ∧ rest.Says p
  | ask _ rest => ∀ r, (rest r).Says p

/-- A request of an event, unless it is a log line. -/
def Event.request? : Event P → Option P.Request
  | .said _ => none
  | .asked q _ => some q

/-- The log line of an event, if it is one. -/
def Event.line? : Event P → Option String
  | .said line => some line
  | .asked _ _ => none

/-- Whether an event is a request with its reply, and not a log line. -/
def Event.isAsked : Event P → Bool
  | .said _ => false
  | .asked _ _ => true

/-! ## Ways -/

/-- A dialogue goes on with the result of the first part. -/
theorem plays_bind {d : Dialogue P α} {f : α → Dialogue P β} {os : List (Event P)} {b : β} :
    (d.bind f).Plays os b ↔
      ∃ first second a, os = first ++ second ∧ d.Plays first a ∧ (f a).Plays second b := by
  constructor
  · intro h
    induction d generalizing os with
    | done a => exact ⟨[], os, a, rfl, .done a, h⟩
    | say line rest ih =>
      cases h with
      | say h =>
        obtain ⟨first, second, a, rfl, hfirst, hsecond⟩ := ih h
        exact ⟨.said line :: first, second, a, rfl, .say hfirst, hsecond⟩
    | ask q rest ih =>
      cases h with
      | ask reply h =>
        obtain ⟨first, second, a, rfl, hfirst, hsecond⟩ := ih reply h
        exact ⟨.asked q reply :: first, second, a, rfl, .ask reply hfirst, hsecond⟩
  · rintro ⟨first, second, a, rfl, hfirst, hsecond⟩
    induction hfirst with
    | done a => exact hsecond
    | say _ ih => exact .say (ih hsecond)
    | ask reply _ ih => exact .ask reply (ih hsecond)

/-- What is played against something that answers is a way of the dialogue. -/
theorem plays_run {σ : Type} (answer : σ → (q : P.Request) → P.Reply q × σ) (s : σ)
    (d : Dialogue P α) : d.Plays (run answer s d).2.2 (run answer s d).1 := by
  induction d generalizing s with
  | done a => exact .done a
  | say line rest ih => exact .say (ih s)
  | ask q rest ih => exact .ask _ (ih _ _)

section Properties

variable {d : Dialogue P α} {os : List (Event P)} {a : α}

/-- A dialogue that is played has one of its results. -/
theorem Plays.yields {p : α → Prop} (h : d.Plays os a) (hd : d.Yields p) : p a := by
  induction h with
  | done a => exact hd
  | say _ ih => exact ih hd
  | ask reply _ ih => exact ih (hd reply)

/-- A dialogue that is played logs only what it may log. -/
theorem Plays.says {p : String → Prop} (h : d.Plays os a) (hd : d.Says p) :
    ∀ line ∈ os.filterMap Event.line?, p line := by
  induction h with
  | done a => exact nofun
  | say _ ih => exact List.forall_mem_cons.mpr ⟨hd.1, ih hd.2⟩
  | ask reply _ ih => exact ih (hd reply)

/-- A dialogue that is played asks only what it may ask. -/
theorem Plays.asks {p : P.Request → Prop} (h : d.Plays os a) (hd : d.Asks p) :
    ∀ q ∈ os.filterMap Event.request?, p q := by
  induction h with
  | done a => exact nofun
  | say _ ih => exact ih hd
  | ask reply _ ih => exact List.forall_mem_cons.mpr ⟨hd.1, ih (hd.2 reply)⟩

end Properties

/-! ## Results -/

section Yields

variable {p : β → Prop}

/-- A dialogue has the results of what it goes on with. -/
theorem yields_bind {r : α → Prop} {d : Dialogue P α} {f : α → Dialogue P β} (hd : d.Yields r)
    (hf : ∀ a, r a → (f a).Yields p) : (d.bind f).Yields p := by
  induction d with
  | done a => exact hf a hd
  | say line rest ih => exact ih hd
  | ask q rest ih => exact fun reply => ih reply (hd reply)

/-- What follows from a property of the results holds of them as well. -/
theorem Yields.mono {r : β → Prop} {d : Dialogue P β} (hd : d.Yields r) (h : ∀ b, r b → p b) :
    d.Yields p := by
  induction d with
  | done b => exact h b hd
  | say line rest ih => exact ih hd
  | ask q rest ih => exact fun reply => ih reply (hd reply)

/-- Of the results of a dialogue nothing need be known. -/
theorem yields_true (d : Dialogue P α) : d.Yields fun _ => True := by
  induction d with
  | done a => trivial
  | say line rest ih => exact ih
  | ask q rest ih => exact ih

/-- Whatever the first part leads to, a dialogue has the results of what it goes on with. -/
theorem yields_bind_of_forall {d : Dialogue P α} {f : α → Dialogue P β}
    (hf : ∀ a, (f a).Yields p) : (d.bind f).Yields p :=
  yields_bind d.yields_true fun a _ => hf a

/-- By way of another service a dialogue has the same results. -/
theorem yields_via {through : (q : P.Request) → Dialogue Q (P.Reply q)} {d : Dialogue P β}
    (hd : d.Yields p) : (d.via through).Yields p := by
  induction d with
  | done a => exact hd
  | say line rest ih => exact ih hd
  | ask q rest ih => exact yields_bind_of_forall fun reply => ih reply (hd reply)

/-- What a dialogue goes on with matters only for the results that there are. -/
theorem bind_congr_of_yields {r : α → Prop} {d : Dialogue P α} (hd : d.Yields r)
    {f g : α → Dialogue P β} (h : ∀ a, r a → f a = g a) : d.bind f = d.bind g := by
  induction d with
  | done a => exact h a hd
  | say line rest ih => exact congrArg (say line) (ih hd)
  | ask q rest ih => exact congrArg (ask q) (funext fun reply => ih reply (hd reply))

/-- A dialogue asks what it asks first, and then what it asks for the results that there are. -/
theorem asks_bind_of_yields {p : P.Request → Prop} {r : α → Prop} {d : Dialogue P α}
    (hd : d.Asks p) (hr : d.Yields r) {f : α → Dialogue P β} (hf : ∀ a, r a → (f a).Asks p) :
    (d.bind f).Asks p := by
  induction d with
  | done a => exact hf a hr
  | say line rest ih => exact ih hd hr
  | ask q rest ih => exact ⟨hd.1, fun reply => ih reply (hd.2 reply) (hr reply)⟩

end Yields

/-! ## Log lines -/

section Says

variable {p : String → Prop}

/-- A dialogue logs what its first part does and what it goes on with. -/
theorem says_bind {d : Dialogue P α} {f : α → Dialogue P β} (hd : d.Says p)
    (hf : ∀ a, (f a).Says p) : (d.bind f).Says p := by
  induction d with
  | done a => exact hf a
  | say line rest ih => exact ⟨hd.1, ih hd.2⟩
  | ask q rest ih => exact fun reply => ih reply (hd reply)

/-- Notes log their lines. -/
theorem says_notes {lines : List String} (h : ∀ line ∈ lines, p line) :
    (notes lines : Dialogue P Unit).Says p := by
  induction lines with
  | nil => trivial
  | cons line rest ih => exact ⟨h line List.mem_cons_self, ih fun l hl =>
      h l (List.mem_cons_of_mem line hl)⟩

/-- By way of requests that log nothing a dialogue has the same log lines. -/
theorem says_via {through : (q : P.Request) → Dialogue Q (P.Reply q)} {d : Dialogue P α}
    (hd : d.Says p) (ht : ∀ q, (through q).Says p) : (d.via through).Says p := by
  induction d with
  | done a => trivial
  | say line rest ih => exact ⟨hd.1, ih hd.2⟩
  | ask q rest ih => exact says_bind (ht q) fun reply => ih reply (hd reply)

end Says

end Dialogue

/-! ## Machines -/

namespace Step

variable {P : Service} {σ τ ρ υ : Type}

/-- A way that a machine can go from a state until it finishes: the record of what is said and
asked, and the result. -/
inductive Runs (step : σ → Step P σ ρ) : σ → List (Dialogue.Event P) → ρ → Prop where
  | finished {s : σ} {r : ρ} (h : step s = .finished r) : Runs step s [] r
  | silent {s next : σ} {os : List (Dialogue.Event P)} {r : ρ} (h : step s = .silent next)
      (rest : Runs step next os r) : Runs step s os r
  | say {s next : σ} {line : String} {os : List (Dialogue.Event P)} {r : ρ}
      (h : step s = .say line next) (rest : Runs step next os r) :
      Runs step s (.said line :: os) r
  | ask {s : σ} {q : P.Request} {next : P.Reply q → σ} {os : List (Dialogue.Event P)} {r : ρ}
      (h : step s = .ask q next) (reply : P.Reply q) (rest : Runs step (next reply) os r) :
      Runs step s (.asked q reply :: os) r

variable {step : σ → Step P σ ρ} {s : σ} {os : List (Dialogue.Event P)} {r : ρ}

namespace Runs

/-- A machine that has finished does nothing any more. -/
theorem of_finished (h : Runs step s os r) {r' : ρ} (hs : step s = .finished r') :
    os = [] ∧ r = r' := by
  cases h with
  | finished h =>
    rw [hs] at h
    cases h
    exact ⟨rfl, rfl⟩
  | silent h _ | say h _ | ask h _ _ => rw [hs] at h; cases h

/-- A silent step leaves no trace. -/
theorem of_silent (h : Runs step s os r) {next : σ} (hs : step s = .silent next) :
    Runs step next os r := by
  cases h with
  | silent h rest =>
    rw [hs] at h
    cases h
    exact rest
  | finished h | say h _ | ask h _ _ => rw [hs] at h; cases h

/-- A log line is the first thing on record, and the machine goes on behind it. -/
theorem of_say (h : Runs step s os r) {line : String} {next : σ} (hs : step s = .say line next) :
    ∃ os', os = .said line :: os' ∧ Runs step next os' r := by
  cases h with
  | say h rest =>
    rw [hs] at h
    cases h
    exact ⟨_, rfl, rest⟩
  | finished h | silent h _ | ask h _ _ => rw [hs] at h; cases h

/-- A request with its reply is the first thing on record, and the machine goes on with the
reply. -/
theorem of_ask (h : Runs step s os r) {q : P.Request} {next : P.Reply q → σ}
    (hs : step s = .ask q next) :
    ∃ reply os', os = .asked q reply :: os' ∧ Runs step (next reply) os' r := by
  cases h with
  | ask h reply rest =>
    rw [hs] at h
    cases h
    exact ⟨reply, _, rfl, rest⟩
  | finished h | silent h _ | say h _ => rw [hs] at h; cases h

/-- A machine in which a dialogue is played goes a way of the dialogue, and then on from the
result. -/
theorem inside {α : Type} (wrap : Dialogue P α → σ) (after : α → σ)
    (hstep : ∀ d, step (wrap d) = d.step.inside wrap after) {d : Dialogue P α}
    (h : Runs step (wrap d) os r) :
    ∃ first second a, os = first ++ second ∧ d.Plays first a ∧ Runs step (after a) second r := by
  induction d generalizing os with
  | done a => exact ⟨[], os, a, rfl, .done a, h.of_silent (hstep _)⟩
  | say line rest ih =>
    obtain ⟨os', rfl, hrest⟩ := h.of_say (hstep _)
    obtain ⟨first, second, a, rfl, hfirst, hsecond⟩ := ih hrest
    exact ⟨.said line :: first, second, a, rfl, .say hfirst, hsecond⟩
  | ask q rest ih =>
    obtain ⟨reply, os', rfl, hrest⟩ := h.of_ask (hstep _)
    obtain ⟨first, second, a, rfl, hfirst, hsecond⟩ := ih reply hrest
    exact ⟨.asked q reply :: first, second, a, rfl, .ask reply hfirst, hsecond⟩

end Runs

end Step

end ChatRelay
