import ChatRelay.Outside
import ChatRelay.Proofs.Play

/-!
# Requests on the way

`Dialogue.AsksAfter` says that a dialogue makes a request at some point of some way that it can go,
and what is on the record of that way by then. It is to a request what `Dialogue.Plays` is to a
result, and it goes through the operations on dialogues in the same way (`asksAfter_bind`).

A unit of work makes its requests to the chat platform among others. `Work.Within` says that each of
them is allowed by what was asked of the chat platform before and replied to it. It is kept with
every step of the work.
-/

namespace ChatRelay

namespace Dialogue

variable {P : Service} {α β : Type}

/-- A request that a dialogue makes on a way that it can go, and the record of what is said and
asked before. -/
inductive AsksAfter : Dialogue P α → List (Event P) → P.Request → Prop where
  | here (q : P.Request) (rest : P.Reply q → Dialogue P α) : AsksAfter (ask q rest) [] q
  | said {line : String} {rest : Dialogue P α} {os : List (Event P)} {q : P.Request}
      (later : AsksAfter rest os q) : AsksAfter (say line rest) (.said line :: os) q
  | asked {q : P.Request} {rest : P.Reply q → Dialogue P α} {os : List (Event P)}
      {q' : P.Request} (reply : P.Reply q) (later : AsksAfter (rest reply) os q') :
      AsksAfter (ask q rest) (.asked q reply :: os) q'

variable {os : List (Event P)} {q : P.Request}

/-- A dialogue that goes on with another one makes its own requests, and then those of the other
one. -/
theorem asksAfter_bind {d : Dialogue P α} {f : α → Dialogue P β} (h : (d.bind f).AsksAfter os q) :
    d.AsksAfter os q ∨
      ∃ first second a, os = first ++ second ∧ d.Plays first a ∧ (f a).AsksAfter second q := by
  induction d generalizing os with
  | done a => exact .inr ⟨[], os, a, rfl, .done a, h⟩
  | say line rest ih =>
    cases h with
    | said h =>
      rcases ih h with hfirst | ⟨first, second, a, rfl, hfirst, hsecond⟩
      · exact .inl (.said hfirst)
      · exact .inr ⟨.said line :: first, second, a, rfl, .say hfirst, hsecond⟩
  | ask q' rest ih =>
    cases h with
    | here => exact .inl (.here _ rest)
    | asked reply h =>
      rcases ih reply h with hfirst | ⟨first, second, a, rfl, hfirst, hsecond⟩
      · exact .inl (.asked reply hfirst)
      · exact .inr ⟨.asked _ reply :: first, second, a, rfl, .ask reply hfirst, hsecond⟩

/-- What goes on with a result makes no more requests. -/
theorem asksAfter_of_bind_done {d : Dialogue P α} {f : α → β}
    (h : (d.bind fun a => done (f a)).AsksAfter os q) : d.AsksAfter os q := by
  rcases asksAfter_bind h with hfirst | ⟨first, second, a, -, -, hsecond⟩
  · exact hfirst
  · cases hsecond

/-- What holds of all that a dialogue asks holds of what it asks on one of its ways. -/
theorem AsksAfter.asks {p : P.Request → Prop} {d : Dialogue P α} (h : d.AsksAfter os q)
    (hd : d.Asks p) : p q := by
  induction h with
  | here q rest => exact hd.1
  | said _ ih => exact ih hd
  | asked reply _ ih => exact ih (hd.2 reply)

/-- What holds of all that a dialogue asks holds of what was asked before, too. -/
theorem AsksAfter.asks_before {p : P.Request → Prop} {d : Dialogue P α} (h : d.AsksAfter os q)
    (hd : d.Asks p) : ∀ q' ∈ os.filterMap Event.request?, p q' := by
  induction h with
  | here q rest => exact nofun
  | said _ ih => exact ih hd
  | asked reply _ ih => exact List.forall_mem_cons.mpr ⟨hd.1, ih (hd.2 reply)⟩

/-- Without its log lines a record has the same requests. -/
theorem Event.requests_of_asked (os : List (Event P)) :
    (os.filter isAsked).filterMap request? = os.filterMap request? := by
  induction os with
  | nil => rfl
  | cons o rest ih =>
    cases o with
    | said line => exact ih
    | asked q reply => exact congrArg (q :: ·) ih

/-- A log line is no request. -/
theorem not_asksAfter_note {line : String} : ¬(note line : Dialogue P Unit).AsksAfter os q := by
  rintro (_ | ⟨⟨⟩⟩)

end Dialogue

open Dialogue (Event)

namespace Work

/-- The request to the chat platform that an event of a unit of work is, with its reply. -/
def chatCall? : Event service → Option (Event Chat.service)
  | .asked (.outside (.chat q)) reply => some (.asked q reply)
  | _ => none

/-- A request to anybody but the chat platform. -/
def Request.IsElsewhere : Request → Prop
  | .outside (.chat _) => False
  | _ => True

variable {α β : Type} {os : List (Event service)}

/-- What asks the chat platform nothing has no call of it on record. -/
theorem chatCalls_of_plays {d : Dialogue service α} {a : α} (hd : d.Asks Request.IsElsewhere)
    (h : d.Plays os a) : os.filterMap chatCall? = [] := by
  induction h with
  | done a => rfl
  | say _ ih => exact ih hd
  | @ask q rest os a reply _ ih =>
    match q with
    | .outside (.chat q) => exact hd.1.elim
    | .outside (.agent _) | .outside (.disk _) | .outside (.web _) | .outside .freshName
    | .outside (.store _) | .recall | .report _ => exact ih (hd.2 reply)

/-- Work on the chat platform makes its requests there. -/
theorem asksAfter_ofChat {d : Dialogue Chat.service α} {q : Request}
    (h : (ofChat d).AsksAfter os q) :
    ∃ os' q', q = .outside (.chat q') ∧ d.AsksAfter os' q' ∧
      os.filterMap chatCall? = os'.filter Event.isAsked := by
  induction d generalizing os with
  | done a => cases h
  | say line rest ih =>
    cases h with
    | said h =>
      obtain ⟨os', q', hq, hd, hcalls⟩ := ih h
      exact ⟨.said line :: os', q', hq, .said hd, hcalls⟩
  | ask q' rest ih =>
    cases h with
    | here => exact ⟨[], _, rfl, .here (P := Chat.service) q' rest, rfl⟩
    | asked reply h =>
      obtain ⟨os', q'', hq, hd, hcalls⟩ := ih reply h
      exact ⟨.asked (P := Chat.service) q' reply :: os', q'', hq,
        .asked (P := Chat.service) (q := q') reply hd,
        congrArg (Event.asked (P := Chat.service) q' reply :: ·) hcalls⟩

/-- What the chat platform may be asked, after what was asked of it before. -/
abbrev Allowance : Type := List (Event Chat.service) → Chat.Request → Prop

/-- All that is left to be asked of the chat platform is allowed, after what was asked of it
before. -/
def Within (allowed : Allowance) (talk : List (Event Chat.service)) (d : Dialogue service α) :
    Prop :=
  ∀ os q, d.AsksAfter os (.outside (.chat q)) → allowed (talk ++ os.filterMap chatCall?) q

variable {allowed : Allowance} {talk : List (Event Chat.service)} {d : Dialogue service α}

/-- Where the chat platform is asked nothing, everything is allowed. -/
theorem within_of_elsewhere (hd : d.Asks Request.IsElsewhere) : Within allowed talk d :=
  fun _ _ h => (h.asks hd).elim

/-- A message to the log leaves what may be asked as it is. -/
theorem Within.said {line : String} (h : Within allowed talk (.say line d)) :
    Within allowed talk d :=
  fun os q hq => h (.said line :: os) q (.said hq)

/-- What is asked of the chat platform is allowed, and what comes behind the reply is allowed after
it. -/
theorem Within.called {q : Chat.Request} {rest : Chat.service.Reply q → Dialogue service α}
    (h : Within allowed talk (.ask (.outside (.chat q)) rest)) :
    allowed talk q ∧ ∀ reply, Within allowed (talk ++ [.asked q reply]) (rest reply) := by
  refine ⟨?_, fun reply os q' hq => ?_⟩
  · have hhere := h [] q (.here (P := service) (.outside (.chat q)) rest)
    rwa [List.filterMap_nil, List.append_nil] at hhere
  · rw [List.append_assoc]
    exact h (.asked (.outside (.chat q)) reply :: os) q'
      (.asked (P := service) (q := .outside (.chat q)) reply hq)

/-- A request to anything else leaves what may be asked of the chat platform as it is. -/
theorem Within.elsewhere {q : Request} (hq : q.IsElsewhere)
    {rest : service.Reply q → Dialogue service α} (h : Within allowed talk (.ask q rest))
    (reply : service.Reply q) : Within allowed talk (rest reply) := by
  intro os q' hq'
  have hlater := h (.asked q reply :: os) q' (.asked reply hq')
  match q with
  | .outside (.chat _) => exact hq.elim
  | .outside (.agent _) | .outside (.disk _) | .outside (.web _) | .outside .freshName
  | .outside (.store _) | .recall | .report _ => exact hlater

end Work

end ChatRelay
