import ChatRelay.Proofs.Desk.Projection
import ChatRelay.Rehearsal.Stage

/-!
# Rehearsals are runs

On a stage the workers take turns in one order, and a troupe answers what they ask. Everything
that happens there is a move of a run, or no move at all: so what holds of every run of the engine
holds on every stage. While nobody is on, every worker waits for an answer or is about to look
into its queue, and so a reset finds its channel at rest (`Stage.Idle.atRest`).

The main statement is `Stage.rehearsal_run`.
-/

namespace ChatRelay.Rehearsal.Stage

variable {P : Service} {σ : Type} {s s' : Stage P σ} {t : Situation} {troupe : Troupe P σ}

/-- The request of a worker that has no reply yet. -/
def question? (s : Stage P σ) (i : Task) : Option Question :=
  (s.errands.find? fun e => e.1 == i).map fun e => ⟨e.2.request, e.2.next⟩

/-- A stage shows a situation: the engine is the same, and the same workers wait for answers. -/
structure Shows (s : Stage P σ) (t : Situation) : Prop where
  engine : t.engine = s.engine
  waiting : ∀ i, t.waiting i = s.question? i

/-- A worker that no longer asks anything waits for nothing. -/
theorem question?_dropErrand (s : Stage P σ) (i j : Task) :
    (s.dropErrand i).question? j = if j = i then none else s.question? j := by
  simp only [question?, dropErrand, List.find?_filter]
  by_cases h : j = i
  · subst h
    rw [if_pos rfl]
    simp
  · rw [if_neg h]
    congr 2
    funext e
    by_cases he : e.1 = j
    · simp [he, h]
    · simp [he]

/-- A worker that asks something waits for the answer. -/
theorem question?_setErrand (s : Stage P σ) (i j : Task) (e : Errand P) :
    (s.setErrand i e).question? j =
      if j = i then some ⟨e.request, e.next⟩ else s.question? j := by
  by_cases h : j = i
  · subst h
    simp [question?, setErrand]
  · have hne : (i == j) = false := beq_eq_false_iff_ne.mpr fun he => h he.symm
    have hdrop := question?_dropErrand s i j
    rw [if_neg h] at hdrop ⊢
    rw [← hdrop]
    simp only [question?, setErrand, List.find?_cons, hne]

/-- The answer to one request, and to no other. -/
def answering (q : Outside.Request) (reply : Outside.service.Reply q) : Outside.Answer := fun q' =>
  if h : q = q' then h ▸ reply else .error (.service "" "")

/-- The request is answered with the reply. -/
theorem answering_self (q : Outside.Request) (reply : Outside.service.Reply q) :
    answering q reply q = reply := by
  simp only [answering, dif_pos]

/-! ## Steps on the stage -/

/-- What an errand does before its end changes no situation. -/
theorem Shows.setErrand (h : s.Shows t) {i : Task} {e : Errand P}
    (he : s.question? i = some ⟨e.request, e.next⟩) : (s.setErrand i e).Shows t where
  engine := h.engine
  waiting := by
    intro j
    rw [question?_setErrand]
    by_cases hj : j = i
    · subst hj
      rw [if_pos rfl, h.waiting, he]
    · rw [if_neg hj, h.waiting]

/-- The arrival of a request changes no situation. -/
theorem Shows.meet (h : s.Shows t) {i : Task} {e : Errand P}
    (he : s.question? i = some ⟨e.request, e.next⟩) (q : P.Request)
    (rest : P.Reply q → Dialogue P (Outside.service.Reply e.request)) (n : Nat) :
    (s.meet troupe i e q rest n).Shows t := by
  unfold Stage.meet
  split
  · have hset := h.setErrand (e := { e with number := some n }) he
    exact ⟨hset.engine, hset.waiting⟩
  · have hset := h.setErrand
      (e := { e with work := rest (troupe.partner.answer s.world i n q).1, number := none }) he
    exact ⟨hset.engine, hset.waiting⟩

/-- A step of an errand is no move, or it answers the request of the worker. -/
theorem Shows.runErrand (hs : t.Sound) (h : s.Shows t) {i : Task} {e : Errand P}
    (he : s.question? i = some ⟨e.request, e.next⟩) :
    ∃ ms, (s.runErrand troupe i e).Shows (t.run ms) := by
  unfold Stage.runErrand
  cases e.work with
  | done reply =>
    have hq : t.waiting i = some ⟨e.request, e.next⟩ := (h.waiting i).trans he
    obtain ⟨w, hw⟩ := hs.waiting i _ hq
    refine ⟨[.reply i (answering e.request reply)], ?_⟩
    have hafter : t.run [.reply i (answering e.request reply)] =
        t.answered i w ⟨e.request, e.next⟩ (answering e.request reply) := by
      simp only [Situation.run_cons, Situation.run_nil, Situation.after, hw, hq]
    rw [hafter]
    refine ⟨?_, fun j => ?_⟩
    · simp only [Situation.answered, Situation.note, Situation.wait, answering_self, h.engine]
    · have hdrop : Stage.question? { s.dropErrand i with
          engine := s.engine.setPhase i (e.next reply) } j = (s.dropErrand i).question? j := rfl
      rw [hdrop, question?_dropErrand, ← h.waiting]
      rfl
  | say line rest =>
    have hset := h.setErrand (e := { e with work := rest }) he
    exact ⟨[], hset.engine, hset.waiting⟩
  | ask q rest =>
    cases e.number with
    | some n => exact ⟨[], h.meet he q rest n⟩
    | none =>
      have hworld : Stage.Shows { s with world := (troupe.partner.arrive s.world i q).1 } t :=
        ⟨h.engine, h.waiting⟩
      exact ⟨[], hworld.meet he q rest _⟩

/-- A step of a worker is a move. -/
theorem Shows.runWorker (h : s.Shows t) {i : Task} (hi : s.question? i = none) :
    ∃ ms, (s.runWorker troupe i).Shows (t.run ms) := by
  have hq : t.waiting i = none := (h.waiting i).trans hi
  cases hw : t.engine.worker? i with
  | none =>
    have hstep : s.engine.step i = (s.engine, .finished ()) := by
      simp only [Engine.step, ← h.engine, hw]
    refine ⟨[], ?_⟩
    simp only [Stage.runWorker, hstep]
    exact ⟨h.engine, h.waiting⟩
  | some w =>
    refine ⟨[.work i], ?_⟩
    have hafter : t.run [.work i] = t.stepped i w (t.engine.step i) := by
      simp only [Situation.run_cons, Situation.run_nil, Situation.after, hw, hq]
    rw [hafter, h.engine]
    simp only [Stage.runWorker]
    cases s.engine.step i with
    | mk e step =>
      cases step with
      | finished _ => exact ⟨rfl, h.waiting⟩
      | silent phase => exact ⟨rfl, h.waiting⟩
      | say line phase => exact ⟨rfl, h.waiting⟩
      | ask q next =>
        refine ⟨rfl, fun j => ?_⟩
        rw [question?_setErrand]
        have hsame : Stage.question? { s with engine := e } j = s.question? j := rfl
        rw [hsame, ← h.waiting]
        rfl

/-- A step on the stage: somebody who is ready comes on, or whoever is on goes on, as a worker or
with the errand for its request. -/
theorem tick_cases (htick : s.tick troupe = some s') :
    (∃ i rest, s.current = none ∧ s' = { s with current := some i, ready := rest }) ∨
      ∃ i, s.current = some i ∧
        ((s.question? i = none ∧ s' = s.runWorker troupe i) ∨
          ∃ e, s.question? i = some ⟨e.request, e.next⟩ ∧ s' = s.runErrand troupe i e) := by
  unfold Stage.tick at htick
  cases hc : s.current with
  | none =>
    rw [hc] at htick
    cases hr : s.ready with
    | nil =>
      rw [hr] at htick
      cases htick
    | cons i rest =>
      rw [hr] at htick
      cases htick
      exact .inl ⟨i, rest, rfl, rfl⟩
  | some i =>
    rw [hc] at htick
    refine .inr ⟨i, rfl, ?_⟩
    cases he : s.errands.find? fun e => e.1 == i with
    | none =>
      simp only [he] at htick
      cases htick
      exact .inl ⟨by simp only [question?, he, Option.map_none], rfl⟩
    | some e =>
      simp only [he] at htick
      cases htick
      exact .inr ⟨e.2, by simp only [question?, he, Option.map_some], rfl⟩

/-- A step on the stage is a move, or no move. -/
theorem Shows.tick (hs : t.Sound) (h : s.Shows t) (htick : s.tick troupe = some s') :
    ∃ ms, s'.Shows (t.run ms) := by
  obtain ⟨i, rest, -, rfl⟩ | ⟨i, -, ⟨hnone, rfl⟩ | ⟨e, he, rfl⟩⟩ := tick_cases htick
  · exact ⟨[], h.engine, h.waiting⟩
  · exact h.runWorker hnone
  · exact h.runErrand hs he

/-! ## While nobody is on -/

/-- Whoever is not on and asks nothing is not in the middle of a unit of work. -/
def Idle (s : Stage P σ) : Prop :=
  ∀ i w, s.engine.worker? i = some w → s.question? i = none → s.current ≠ some i →
    w.phase.isBusy = false

/-- While nobody is on, every channel is at rest. -/
theorem Idle.atRest (hi : s.Idle) (hs : t.Sound) (h : s.Shows t) (hc : s.current = none)
    (c : String) : t.atRest c = true := by
  refine List.all_eq_true.mpr fun w hw => ?_
  cases hq : t.waiting w.1 with
  | some q => simp
  | none =>
    have hworker : s.engine.worker? w.1 = some w.2 := by
      rw [← h.engine]
      exact Engine.worker?_of_mem hs.staffed hw
    have hidle := hi w.1 w.2 hworker ((h.waiting w.1).symm.trans hq) (by rw [hc]; simp)
    simp [hidle]

/-- A step that changes no other worker and no other errand keeps everybody idle, when the worker
that is on stays on, asks something or is gone. -/
theorem Idle.of_step (hi : s.Idle) {i : Task} (hc : s.current = some i)
    (hworkers : ∀ j, j ≠ i → s'.engine.worker? j = s.engine.worker? j)
    (hquestions : ∀ j, j ≠ i → s'.question? j = s.question? j)
    (hself : s'.current = some i ∨ s'.question? i ≠ none ∨ s'.engine.worker? i = none) :
    s'.Idle := by
  intro j w hw hq hcurrent
  by_cases hj : j = i
  · subst hj
    rcases hself with hself | hself | hself
    · exact absurd hself hcurrent
    · exact absurd hq hself
    · rw [hself] at hw
      cases hw
  · rw [hworkers j hj] at hw
    rw [hquestions j hj] at hq
    refine hi j w hw hq ?_
    rw [hc]
    exact fun he => hj (Option.some.inj he).symm

/-- Meeting the partner leaves nobody without something to wait for. -/
theorem Idle.meet (hi : s.Idle) {i : Task} (hc : s.current = some i) (e : Errand P)
    (q : P.Request) (rest : P.Reply q → Dialogue P (Outside.service.Reply e.request)) (n : Nat) :
    (s.meet troupe i e q rest n).Idle := by
  have hother : ∀ (e' : Errand P) j, j ≠ i → (s.setErrand i e').question? j = s.question? j := by
    intro e' j hj
    rw [question?_setErrand, if_neg hj]
  unfold Stage.meet
  split
  · refine hi.of_step hc (fun _ _ => rfl) (hother _) (.inr (.inl ?_))
    have hself := question?_setErrand s i i { e with number := some n }
    rw [if_pos rfl] at hself
    intro hnone
    exact absurd (hself.symm.trans hnone) (Option.some_ne_none _)
  · exact hi.of_step hc (fun _ _ => rfl) (hother _) (.inl hc)

/-- An errand that goes on leaves nobody without something to wait for. -/
theorem Idle.runErrand (hi : s.Idle) {i : Task} (hc : s.current = some i) (e : Errand P) :
    (s.runErrand troupe i e).Idle := by
  unfold Stage.runErrand
  cases e.work with
  | done reply =>
    refine hi.of_step hc (fun j hj => Engine.worker?_setPhase_of_ne _ hj _) (fun j hj => ?_)
      (.inl hc)
    have hdrop := question?_dropErrand s i j
    rw [if_neg hj] at hdrop
    exact hdrop
  | say line rest =>
    refine hi.of_step hc (fun _ _ => rfl) (fun j hj => ?_) (.inl hc)
    have hset := question?_setErrand s i j { e with work := rest }
    rw [if_neg hj] at hset
    exact hset
  | ask q rest =>
    cases e.number with
    | some n => exact hi.meet hc e q rest n
    | none =>
      have hworld : Stage.Idle { s with world := (troupe.partner.arrive s.world i q).1 } := hi
      exact hworld.meet hc e q rest _

/-- A worker that goes on leaves nobody without something to wait for. -/
theorem Idle.runWorker (hi : s.Idle) (hs : s.engine.Staffed) {i : Task}
    (hc : s.current = some i) : (s.runWorker troupe i).Idle := by
  have hothers : ∀ j, j ≠ i → (s.engine.step i).1.worker? j = s.engine.worker? j := by
    intro j hj
    cases hw : s.engine.worker? i with
    | none => simp only [Engine.step, hw]
    | some w => exact (hs.step hw).2.1 j hj
  have hgone : (s.engine.step i).2 = .finished () → (s.engine.step i).1.worker? i = none :=
    Engine.worker?_of_finished
  unfold Stage.runWorker
  cases hstep : s.engine.step i with
  | mk e step =>
    rw [hstep] at hothers hgone
    cases step with
    | finished _ => exact hi.of_step hc hothers (fun _ _ => rfl) (.inr (.inr (hgone rfl)))
    | silent phase =>
      refine hi.of_step hc (fun j hj => ?_) (fun _ _ => rfl) (.inl hc)
      exact (Engine.worker?_setPhase_of_ne _ hj _).trans (hothers j hj)
    | say line phase =>
      refine hi.of_step hc (fun j hj => ?_) (fun _ _ => rfl) (.inl hc)
      exact (Engine.worker?_setPhase_of_ne _ hj _).trans (hothers j hj)
    | ask q next =>
      refine hi.of_step hc hothers (fun j hj => ?_) (.inl hc)
      exact (question?_setErrand _ i j _).trans (if_neg hj)

/-- A step on the stage keeps everybody idle who is not on. -/
theorem Idle.tick (hi : s.Idle) (hs : s.engine.Staffed) (htick : s.tick troupe = some s') :
    s'.Idle := by
  obtain ⟨i, rest, hc, rfl⟩ | ⟨i, hc, ⟨-, rfl⟩ | ⟨e, -, rfl⟩⟩ := tick_cases htick
  · intro j w hw hq _
    have hoff : s.current ≠ some j := by
      rw [hc]
      exact nofun
    exact hi j w hw hq hoff
  · exact hi.runWorker hs hc
  · exact hi.runErrand hc e

/-- A worker that is called for an event is about to look into its queue. -/
theorem Idle.receive (hi : s.Idle) (item : Incoming) : (s.receive item).1.Idle := by
  intro i w hw hq hc
  have hbefore : s.engine.worker? i = some w ∨ w.phase = .free := by
    simp only [Stage.receive, Engine.receive] at hw
    split at hw
    · exact .inl hw
    · exact Engine.worker?_of_enqueue hw
  rcases hbefore with hw | hfree
  · exact hi i w hw hq hc
  · rw [hfree]
    rfl

/-! ## Rehearsals -/

/-- One thing that is done with a stage. A reset comes while nobody is on, and at the gates
anything may happen at any time. -/
inductive Act (troupe : Troupe P σ) : Stage P σ → Stage P σ → Prop where
  | tick {s s' : Stage P σ} (step : s.tick troupe = some s') : Act troupe s s'
  | receive {s : Stage P σ} (item : Incoming) : Act troupe s (s.receive item).1
  | reset {s : Stage P σ} (channel : String) (nobody : s.current = none) :
      Act troupe s (s.reset troupe channel).2
  | gates {s : Stage P σ} (gates : Gates) (ready : List Task) (waiting : List (String × Task)) :
      Act troupe s { s with gates, ready, waiting }

/-- What can become of a stage. -/
inductive Becomes (troupe : Troupe P σ) (s : Stage P σ) : Stage P σ → Prop where
  | refl : Becomes troupe s s
  | act {s' s'' : Stage P σ} (before : Becomes troupe s s') (act : Act troupe s' s'') :
      Becomes troupe s s''

/-- Whatever is done with a stage is a move of the situation that it shows, or no move. -/
theorem Shows.act (hs : t.Sound) (h : s.Shows t) (hi : s.Idle) (ha : Act troupe s s') :
    (∃ ms, s'.Shows (t.run ms)) ∧ s'.Idle := by
  cases ha with
  | tick step =>
    refine ⟨h.tick hs step, hi.tick ?_ step⟩
    rw [← h.engine]
    exact hs.staffed
  | receive item =>
    refine ⟨⟨[.receive item], ?_, h.waiting⟩, hi.receive item⟩
    simp only [Situation.run_cons, Situation.run_nil, Situation.after, h.engine, Stage.receive]
  | reset channel nobody =>
    refine ⟨⟨[.reset channel fun _ => .error (.service "" "")], ?_⟩, hi⟩
    have hrest : t.atRest channel = true := hi.atRest hs h nobody channel
    simp only [Situation.run_cons, Situation.run_nil, Situation.after, hrest, if_true]
    refine ⟨?_, h.waiting⟩
    rw [h.engine]
    rfl
  | gates gates ready waiting => exact ⟨⟨[], h.engine, h.waiting⟩, hi⟩

/-- **A rehearsal is a run.** Whatever can become of a stage with a new engine shows what stands
after some moves of a run. -/
theorem rehearsal_run {config : Config} {systemPrompt : Option String} {sessions : SessionTable}
    (hengine : s.engine = { config, systemPrompt, sessions }) (herrands : s.errands = [])
    (h : Becomes troupe s s') :
    ∃ ms, s'.Shows ((Situation.start config systemPrompt sessions).run ms) := by
  suffices hboth : (∃ ms, s'.Shows ((Situation.start config systemPrompt sessions).run ms)) ∧
      s'.Idle from hboth.1
  induction h with
  | refl =>
    refine ⟨⟨[], hengine.symm, fun i => ?_⟩, fun i w hw => ?_⟩
    · simp only [question?, herrands]
      rfl
    · rw [hengine] at hw
      cases hw
  | act before act ih =>
    obtain ⟨⟨ms, hshows⟩, hidle⟩ := ih
    have hsound := (Situation.run_sound (Situation.start_sound config systemPrompt sessions) ms).1
    obtain ⟨⟨ns, hns⟩, hidle'⟩ := hshows.act hsound hidle act
    refine ⟨⟨ms ++ ns, ?_⟩, hidle'⟩
    rw [Situation.run_append]
    exact hns

end ChatRelay.Rehearsal.Stage
