import ChatRelay.Proofs.Play
import Mathlib.Data.List.Basic
import Mathlib.Logic.Function.Iterate

/-!
# Machines step by step

A responder answers a request with all in view that was asked before. Against a responder a machine
goes one way, and `Progress` says how far it has come on it after some steps, whether it finishes
or not. A dialogue that runs inside a machine writes its log lines and then asks or is done
(`Progress.settle`), so two machines that differ in log lines only ask the same.
-/

namespace ChatRelay

open Dialogue (Event)

variable {P : Service} {σ ρ α β : Type}

/-- Somebody who answers every request, and knows what was asked before and replied to it. -/
abbrev Service.Responder (P : Service) : Type := List (Event P) → (q : P.Request) → P.Reply q

/-! ## Dialogues without log lines -/

namespace Dialogue

/-- A dialogue without its log lines. -/
def mute : Dialogue P α → Dialogue P α
  | done a => done a
  | say _ rest => rest.mute
  | ask q rest => ask q fun r => (rest r).mute

/-- What a dialogue goes on with loses its log lines as well. -/
theorem mute_bind (d : Dialogue P α) (f : α → Dialogue P β) :
    (d.bind f).mute = d.mute.bind fun a => (f a).mute := by
  induction d with
  | done a => rfl
  | say line rest ih => exact ih
  | ask q rest ih => exact congrArg (ask q) (funext ih)

/-- Apart from log lines it matters only what a dialogue goes on with apart from log lines. -/
theorem mute_bind_congr {d : Dialogue P α} {f g : α → Dialogue P β}
    (h : ∀ a, (f a).mute = (g a).mute) : (d.bind f).mute = (d.bind g).mute := by
  rw [mute_bind, mute_bind, funext h]

/-- Nothing is left of notes without their log lines. -/
theorem mute_notes (lines : List String) : (notes lines : Dialogue P Unit).mute = done () := by
  induction lines with
  | nil => rfl
  | cons line rest ih => exact ih

end Dialogue

/-! ## Progress -/

/-- How far a machine has come: its state, and the record of what was said and asked. -/
structure Progress (P : Service) (σ : Type) where
  state : σ
  record : List (Event P) := []

namespace Progress

variable {step : σ → Step P σ ρ} {responder : P.Responder} {x : Progress P σ}

/-- What was asked and replied, without the log lines. -/
def asked (x : Progress P σ) : List (Event P) := x.record.filter Event.isAsked

/-- One step further. A machine that has finished stands still. -/
def next (step : σ → Step P σ ρ) (responder : P.Responder) (x : Progress P σ) : Progress P σ :=
  match step x.state with
  | .finished _ => x
  | .silent s => { x with state := s }
  | .say line s => ⟨s, x.record ++ [.said line]⟩
  | .ask q rest =>
    ⟨rest (responder x.asked q), x.record ++ [.asked q (responder x.asked q)]⟩

/-- How far a machine has come after a number of steps. -/
def after (step : σ → Step P σ ρ) (responder : P.Responder) (s : σ) (n : ℕ) : Progress P σ :=
  (next step responder)^[n] ⟨s, []⟩

/-- A machine that has finished stands still. -/
theorem next_of_finished {r : ρ} (h : step x.state = .finished r) : x.next step responder = x := by
  rw [next, h]

/-- A silent step changes the state alone. -/
theorem next_of_silent {s : σ} (h : step x.state = .silent s) :
    x.next step responder = ⟨s, x.record⟩ := by
  rw [next, h]

/-- A log line is put on record. -/
theorem next_of_say {line : String} {s : σ} (h : step x.state = .say line s) :
    x.next step responder = ⟨s, x.record ++ [.said line]⟩ := by
  rw [next, h]

/-- A request is put on record with the reply to it. -/
theorem next_of_ask {q : P.Request} {rest : P.Reply q → σ} (h : step x.state = .ask q rest) :
    x.next step responder =
      ⟨rest (responder x.asked q), x.record ++ [.asked q (responder x.asked q)]⟩ := by
  rw [next, h]

/-- A log line is not among what was asked. -/
@[simp] theorem asked_said (s : σ) (os : List (Event P)) (line : String) :
    asked ⟨s, os ++ [.said line]⟩ = asked ⟨s, os⟩ := by
  simp [asked, Event.isAsked]

/-- A request with its reply is the last of what was asked. -/
@[simp] theorem asked_asked (s : σ) (os : List (Event P)) (q : P.Request) (r : P.Reply q) :
    asked ⟨s, os ++ [.asked q r]⟩ = asked ⟨s, os⟩ ++ [.asked q r] := by
  simp [asked, Event.isAsked]

/-- What is read off requests and replies is read off a record as a whole. -/
theorem filterMap_asked {γ : Type} {f : Event P → Option γ} (hf : ∀ line, f (.said line) = none)
    (x : Progress P σ) : x.asked.filterMap f = x.record.filterMap f := by
  rw [asked, List.filterMap_filter]
  refine List.filterMap_congr fun o _ => ?_
  cases o with
  | said line => exact (hf line).symm
  | asked q r => rfl

/-- What one step of the first machine keeps, as far as the second one goes some steps of its own,
all steps keep. -/
theorem follow {τ : Type} {R : Progress P σ → Progress P τ → Prop}
    {f : Progress P σ → Progress P σ} {g : Progress P τ → Progress P τ}
    (hstep : ∀ x y, R x y → ∃ m, R (f x) (g^[m] y)) {x : Progress P σ} {y : Progress P τ}
    (h : R x y) (n : ℕ) : ∃ m, R (f^[n] x) (g^[m] y) := by
  induction n with
  | zero => exact ⟨0, h⟩
  | succ n ih =>
    obtain ⟨m, hm⟩ := ih
    obtain ⟨k, hk⟩ := hstep _ _ hm
    refine ⟨k + m, ?_⟩
    rw [Function.iterate_succ_apply', Function.iterate_add_apply]
    exact hk

/-- A dialogue in a machine writes the log lines that come first. Nothing is asked for that, and
the dialogue is the same apart from log lines. -/
theorem settle {wrap : Dialogue P α → σ} {after : α → σ}
    (hstep : ∀ d, step (wrap d) = d.step.inside wrap after) (responder : P.Responder)
    (d : Dialogue P α) (os : List (Event P)) :
    ∃ m d' os', (next step responder)^[m] ⟨wrap d, os⟩ = ⟨wrap d', os'⟩ ∧
      asked (σ := σ) ⟨wrap d', os'⟩ = asked (σ := σ) ⟨wrap d, os⟩ ∧ d'.mute = d.mute ∧
      ∀ line rest, d' ≠ .say line rest := by
  induction d generalizing os with
  | done a => exact ⟨0, .done a, os, rfl, rfl, rfl, nofun⟩
  | ask q rest ih => exact ⟨0, .ask q rest, os, rfl, rfl, rfl, nofun⟩
  | say line rest ih =>
    obtain ⟨m, d', os', hm, hasked, hmute, hsettled⟩ := ih (os ++ [.said line])
    have hnext : next step responder ⟨wrap (.say line rest), os⟩ =
        ⟨wrap rest, os ++ [.said line]⟩ := next_of_say (hstep _)
    refine ⟨m + 1, d', os', ?_, ?_, hmute, hsettled⟩
    · rw [Function.iterate_succ_apply, hnext, hm]
    · rw [hasked, asked_said]
      rfl

end Progress

end ChatRelay
