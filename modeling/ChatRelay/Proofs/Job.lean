import ChatRelay.Job

/-!
# What a unit of work keeps

A unit of work goes from phase to phase, and its event, its profile and its settings stay the
same. `Step.Leads` says that a property holds wherever a step may lead.
-/

namespace ChatRelay

namespace Step

variable {P : Service} {σ τ ρ υ : Type}

/-- Wherever a step leads, whatever the reply is, the next state has a property. -/
def Leads (p : σ → Prop) : Step P σ ρ → Prop
  | .finished _ => True
  | .silent next => p next
  | .say _ next => p next
  | .ask _ next => ∀ r, p (next r)

/-- A machine inside another one leads to where its wrapping and its end lead. -/
theorem leads_inside {p : τ → Prop} {wrap : σ → τ} {after : ρ → τ} (hw : ∀ s, p (wrap s))
    (ha : ∀ r, p (after r)) (step : Step P σ ρ) :
    (step.inside wrap after : Step P τ υ).Leads p := by
  cases step with
  | finished r => exact ha r
  | silent s => exact hw s
  | say line s => exact hw s
  | ask q next => exact fun r => hw (next r)

end Step

namespace Job

/-- Two stages of one unit of work. -/
structure Same (j k : Job) : Prop where
  work : k.work = j.work
  settings : k.settings = j.settings
  systemPrompt : k.systemPrompt = j.systemPrompt

/-- A unit of work stays the same in all its phases. -/
theorem step_leads_same (j : Job) : j.step.Leads j.Same := by
  have hfetched : ∀ m outcome, j.Same (j.fetched m outcome) := by
    intro m outcome
    cases outcome <;> exact ⟨rfl, rfl, rfl⟩
  have htidied : ∀ outcome outcome', j.Same (j.tidied outcome outcome') := by
    intro outcome outcome'
    cases outcome' <;> exact ⟨rfl, rfl, rfl⟩
  unfold step
  split
  · exact Step.leads_inside (fun _ => ⟨rfl, rfl, rfl⟩) (hfetched _) _
  · intro r
    cases r <;> exact ⟨rfl, rfl, rfl⟩
  · exact Step.leads_inside (fun _ => ⟨rfl, rfl, rfl⟩) (fun _ => ⟨rfl, rfl, rfl⟩) _
  · exact Step.leads_inside (fun _ => ⟨rfl, rfl, rfl⟩) (htidied _) _
  · trivial

end Job

end ChatRelay
