import ChatRelay.Proofs.Play

/-!
# How far a machine has come

`Step.Runs` is about machines that finish. `Step.Goes` is a part of such a way, or of one that has
no end: it relates a state to one that the machine may have come to, and to the record in between.
A machine that runs inside another one has come to some state of its own, or it has finished and
the other one has gone on (`Step.Goes.inside`).

`Step.Finishes` says that a machine finishes, whatever the replies are.
-/

namespace ChatRelay.Step

open Dialogue (Event)

variable {P : Service} {σ τ ρ υ : Type}

/-- A way that a machine can go from one state to another one: the record of what is said and
asked. -/
inductive Goes (step : σ → Step P σ ρ) : σ → List (Event P) → σ → Prop where
  | here (s : σ) : Goes step s [] s
  | silent {s next s' : σ} {os : List (Event P)} (h : step s = .silent next)
      (rest : Goes step next os s') : Goes step s os s'
  | say {s next s' : σ} {line : String} {os : List (Event P)} (h : step s = .say line next)
      (rest : Goes step next os s') : Goes step s (.said line :: os) s'
  | ask {s s' : σ} {q : P.Request} {next : P.Reply q → σ} {os : List (Event P)}
      (h : step s = .ask q next) (reply : P.Reply q) (rest : Goes step (next reply) os s') :
      Goes step s (.asked q reply :: os) s'

/-- A step that asks only what has a property, and leads to states with a property. -/
def Stays (p : P.Request → Prop) (keeps : σ → Prop) : Step P σ ρ → Prop
  | .finished _ => True
  | .silent next => keeps next
  | .say _ next => keeps next
  | .ask q next => p q ∧ ∀ r, keeps (next r)

/-- A machine finishes, whatever the replies are. -/
inductive Finishes (step : σ → Step P σ ρ) : σ → Prop where
  | finished {s : σ} {r : ρ} (h : step s = .finished r) : Finishes step s
  | silent {s next : σ} (h : step s = .silent next) (rest : Finishes step next) : Finishes step s
  | say {s next : σ} {line : String} (h : step s = .say line next) (rest : Finishes step next) :
    Finishes step s
  | ask {s : σ} {q : P.Request} {next : P.Reply q → σ} (h : step s = .ask q next)
      (rest : ∀ reply, Finishes step (next reply)) : Finishes step s

/-! ## A machine inside another one -/

section Inside

variable {inner : Step P σ ρ} {wrap : σ → τ} {after : ρ → τ}

/-- A machine goes on by itself when one inside it does so, or has finished. -/
theorem silent_of_inside {next : τ} (h : (inner.inside wrap after : Step P τ υ) = .silent next) :
    (∃ r, inner = .finished r ∧ next = after r) ∨ ∃ s, inner = .silent s ∧ next = wrap s := by
  cases inner with
  | finished r =>
    cases h
    exact .inl ⟨r, rfl, rfl⟩
  | silent s =>
    cases h
    exact .inr ⟨s, rfl, rfl⟩
  | say line s => cases h
  | ask q next' => cases h

/-- What a machine logs when one runs inside it is logged by that one. -/
theorem say_of_inside {line : String} {next : τ}
    (h : (inner.inside wrap after : Step P τ υ) = .say line next) :
    ∃ s, inner = .say line s ∧ next = wrap s := by
  cases inner with
  | finished r => cases h
  | silent s => cases h
  | say line' s =>
    cases h
    exact ⟨s, rfl, rfl⟩
  | ask q next' => cases h

/-- What a machine asks when one runs inside it is asked by that one. -/
theorem ask_of_inside {q : P.Request} {next : P.Reply q → τ}
    (h : (inner.inside wrap after : Step P τ υ) = .ask q next) :
    ∃ next', inner = .ask q next' ∧ next = fun r => wrap (next' r) := by
  cases inner with
  | finished r => cases h
  | silent s => cases h
  | say line s => cases h
  | ask q' next' =>
    cases h
    exact ⟨next', rfl, rfl⟩

end Inside

/-! ## Ways -/

variable {step : σ → Step P σ ρ} {s s' : σ} {os os' : List (Event P)} {r : ρ}

namespace Goes

/-- A machine that has finished stays where it is. -/
theorem of_finished (h : Goes step s os s') (hs : step s = .finished r) : os = [] ∧ s' = s := by
  cases h with
  | here => exact ⟨rfl, rfl⟩
  | silent h _ | say h _ | ask h _ _ => rw [hs] at h; cases h

/-- A machine that logs something is still there, or has gone on behind the log line. -/
theorem of_say (h : Goes step s os s') {line : String} {next : σ} (hs : step s = .say line next) :
    os = [] ∧ s' = s ∨ ∃ os', os = .said line :: os' ∧ Goes step next os' s' := by
  cases h with
  | here => exact .inl ⟨rfl, rfl⟩
  | say h rest =>
    rw [hs] at h
    cases h
    exact .inr ⟨_, rfl, rest⟩
  | silent h _ | ask h _ _ => rw [hs] at h; cases h

/-- A machine that asks something is still there, or has gone on with a reply. -/
theorem of_ask (h : Goes step s os s') {q : P.Request} {next : P.Reply q → σ}
    (hs : step s = .ask q next) :
    os = [] ∧ s' = s ∨ ∃ reply os', os = .asked q reply :: os' ∧ Goes step (next reply) os' s' := by
  cases h with
  | here => exact .inl ⟨rfl, rfl⟩
  | ask h reply rest =>
    rw [hs] at h
    cases h
    exact .inr ⟨reply, _, rfl, rest⟩
  | silent h _ | say h _ => rw [hs] at h; cases h

/-- A machine that has come somewhere and finishes from there has run. -/
theorem runs (h : Goes step s os s') (hrest : Runs step s' os' r) :
    Runs step s (os ++ os') r := by
  induction h with
  | here => exact hrest
  | silent h _ ih => exact .silent h (ih hrest)
  | say h _ ih => exact .say h (ih hrest)
  | ask h reply _ ih => exact .ask h reply (ih hrest)

/-- What every step keeps is kept on the way, and only that is asked which every step may ask. -/
theorem stays {p : P.Request → Prop} {keeps : σ → Prop} (h : Goes step s os s')
    (hstep : ∀ s, keeps s → (step s).Stays p keeps) (hs : keeps s) :
    keeps s' ∧ ∀ q ∈ os.filterMap Event.request?, p q := by
  induction h with
  | here => exact ⟨hs, nofun⟩
  | @silent s next s' os h _ ih =>
    have hnext := hstep s hs
    rw [h] at hnext
    exact ih hnext
  | @say s next s' line os h _ ih =>
    have hnext := hstep s hs
    rw [h] at hnext
    exact ih hnext
  | @ask s s' q next os h reply _ ih =>
    have hnext := hstep s hs
    rw [h] at hnext
    obtain ⟨hs', hos⟩ := ih (hnext.2 reply)
    exact ⟨hs', List.forall_mem_cons.mpr ⟨hnext.1, hos⟩⟩

/-- A machine in which another one runs has come to a state of that one, or that one has run and
the machine has gone on from its result. -/
theorem inside {inner : τ → Step P τ υ} (wrap : τ → σ) (after : υ → σ)
    (hstep : ∀ t, step (wrap t) = (inner t).inside wrap after) {t : τ}
    (h : Goes step (wrap t) os s') :
    (∃ t', Goes inner t os t' ∧ s' = wrap t') ∨
      ∃ first second a, os = first ++ second ∧ Runs inner t first a ∧
        Goes step (after a) second s' := by
  generalize hs : wrap t = s at h
  induction h generalizing t with
  | here => exact .inl ⟨t, .here t, hs.symm⟩
  | silent h rest ih =>
    subst hs
    rw [hstep] at h
    rcases silent_of_inside h with ⟨a, ht, rfl⟩ | ⟨t', ht, rfl⟩
    · exact .inr ⟨[], _, a, rfl, .finished ht, rest⟩
    · rcases ih rfl with ⟨t'', hgoes, hs'⟩ | ⟨first, second, a, hos, hruns, hgoes⟩
      · exact .inl ⟨t'', .silent ht hgoes, hs'⟩
      · exact .inr ⟨first, second, a, hos, .silent ht hruns, hgoes⟩
  | say h rest ih =>
    subst hs
    rw [hstep] at h
    obtain ⟨t', ht, rfl⟩ := say_of_inside h
    rcases ih rfl with ⟨t'', hgoes, hs'⟩ | ⟨first, second, a, hos, hruns, hgoes⟩
    · exact .inl ⟨t'', .say ht hgoes, hs'⟩
    · exact .inr ⟨_ :: first, second, a, congrArg _ hos, .say ht hruns, hgoes⟩
  | ask h reply rest ih =>
    subst hs
    rw [hstep] at h
    obtain ⟨t', ht, rfl⟩ := ask_of_inside h
    rcases ih rfl with ⟨t'', hgoes, hs'⟩ | ⟨first, second, a, hos, hruns, hgoes⟩
    · exact .inl ⟨t'', .ask ht reply hgoes, hs'⟩
    · exact .inr ⟨_ :: first, second, a, congrArg _ hos, .ask ht reply hruns, hgoes⟩

/-- A machine goes on from the result of the one that runs inside it. -/
theorem after_inside {inner : τ → Step P τ υ} (wrap : τ → σ) (after : υ → σ)
    (hstep : ∀ t, step (wrap t) = (inner t).inside wrap after) {t : τ} {a : υ}
    (hruns : Runs inner t os a) (h : Goes step (after a) os' s') :
    Goes step (wrap t) (os ++ os') s' := by
  induction hruns with
  | finished ht => exact .silent (by rw [hstep, ht]; rfl) h
  | silent ht _ ih => exact .silent (by rw [hstep, ht]; rfl) (ih h)
  | say ht _ ih => exact .say (by rw [hstep, ht]; rfl) (ih h)
  | ask ht reply _ ih => exact .ask (by rw [hstep, ht]; rfl) reply (ih h)

end Goes

/-- A machine runs when it comes to a state in which it has finished. -/
theorem runs_iff_goes : Runs step s os r ↔ ∃ s', Goes step s os s' ∧ step s' = .finished r := by
  constructor
  · intro h
    induction h with
    | @finished s r h => exact ⟨s, .here s, h⟩
    | silent h _ ih =>
      obtain ⟨s', hgoes, hs'⟩ := ih
      exact ⟨s', .silent h hgoes, hs'⟩
    | say h _ ih =>
      obtain ⟨s', hgoes, hs'⟩ := ih
      exact ⟨s', .say h hgoes, hs'⟩
    | ask h reply _ ih =>
      obtain ⟨s', hgoes, hs'⟩ := ih
      exact ⟨s', .ask h reply hgoes, hs'⟩
  · rintro ⟨s', hgoes, hs'⟩
    have hruns := hgoes.runs (.finished hs')
    rwa [List.append_nil] at hruns

/-- What is left of a dialogue runs as the dialogue is played. -/
theorem runs_dialogue_iff {α : Type} {d : Dialogue P α} {a : α} :
    Runs Dialogue.step d os a ↔ d.Plays os a := by
  constructor
  · intro h
    induction d generalizing os with
    | done b =>
      obtain ⟨rfl, rfl⟩ := h.of_finished rfl
      exact .done a
    | say line rest ih =>
      obtain ⟨os', rfl, hrest⟩ := h.of_say rfl
      exact .say (ih hrest)
    | ask q rest ih =>
      obtain ⟨reply, os', rfl, hrest⟩ := h.of_ask rfl
      exact .ask reply (ih reply hrest)
  · intro h
    induction h with
    | done a => exact .finished rfl
    | say _ ih => exact .say rfl ih
    | ask reply _ ih => exact .ask rfl reply ih

/-- A machine inside another one keeps what its wrapping and its end keep. -/
theorem Stays.inside {inner : Step P σ ρ} {p : P.Request → Prop} {keeps : σ → Prop}
    {keeps' : τ → Prop} {wrap : σ → τ} {after : ρ → τ} (h : inner.Stays p keeps)
    (hwrap : ∀ s, keeps s → keeps' (wrap s)) (hafter : ∀ r, keeps' (after r)) :
    (inner.inside wrap after : Step P τ υ).Stays p keeps' := by
  cases inner with
  | finished r => exact hafter r
  | silent next => exact hwrap next h
  | say line next => exact hwrap next h
  | ask q next => exact ⟨h.1, fun r => hwrap _ (h.2 r)⟩

/-- A dialogue keeps what it may ask. -/
theorem stays_dialogue {α : Type} {p : P.Request → Prop} (d : Dialogue P α) (h : d.Asks p) :
    d.step.Stays p fun d' => d'.Asks p := by
  cases d with
  | done a => trivial
  | say line rest => exact h
  | ask q rest => exact h

/-- A machine in which a dialogue is played finishes when it does so from every result. -/
theorem Finishes.inside {α : Type} (wrap : Dialogue P α → σ) (after : α → σ)
    (hstep : ∀ d, step (wrap d) = d.step.inside wrap after) {d : Dialogue P α}
    (h : ∀ os a, d.Plays os a → Finishes step (after a)) : Finishes step (wrap d) := by
  induction d with
  | done a => exact .silent (hstep _) (h [] a (.done a))
  | say line rest ih => exact .say (hstep _) (ih fun os a hplays => h _ a (.say hplays))
  | ask q rest ih =>
    exact .ask (hstep _) fun reply => ih reply fun os a hplays => h _ a (.ask reply hplays)

end ChatRelay.Step
