import ChatRelay.Proofs.Desk

/-!
# A run, seen from one channel

Every move of a run is a step at one desk, and changes no other desk. So a run is, for every
channel, a run of its desk.
-/

namespace ChatRelay

namespace Desk

variable {config : Config} {systemPrompt : Option String} {c : String}

/-- What is recorded of a desk belongs to the record of its channel, and of no other. -/
theorem Next.concerns {d d' : Desk} {os : List Occurrence}
    (h : Next config systemPrompt c d os d') {o : Occurrence} (ho : o ∈ os) (c' : String) :
    o.concerns c' = (c == c') := by
  cases h <;> simp_all [Occurrence.concerns]

end Desk

namespace Situation

/-- One situation follows another one by a step at the desk of one channel. -/
structure Moved (s s' : Situation) (c : String) (os : List Occurrence) : Prop where
  next : Desk.Next s.engine.config s.engine.systemPrompt c (s.desk c) os (s'.desk c)
  record : s'.record = s.record ++ os
  others : ∀ c', c' ≠ c → s'.desk c' = s.desk c'

section Worker

variable {s : Situation} {i : Nat} {w : Worker}

/-- A worker that only changes its phase. -/
theorem moved_phase (hs : s.engine.Staffed) (hw : s.engine.worker? i = some w)
    (hq : s.waiting i = none) {p : Worker.Phase} {deeds : List Deed} {s' : Situation}
    (he : s' = ({ s with engine := s.engine.setPhase i p } : Situation).note i w.channel deeds)
    (hn : Desk.Next s.engine.config s.engine.systemPrompt w.channel
      ⟨s.engine.queue w.channel, s.engine.sessions.get? w.channel, some (i, w.phase, none)⟩
      (deeds.map (.worked i w.channel))
      ⟨s.engine.queue w.channel, s.engine.sessions.get? w.channel, some (i, p, none)⟩) :
    Moved s s' w.channel (deeds.map (.worked i w.channel)) where
  next := by
    rw [he, desk_note, desk_setPhase hs hw, if_pos rfl, desk_of_worker hs hw, hq]
    exact hn
  record := by
    rw [he]
    rfl
  others := by
    intro c hc
    rw [he, desk_note, desk_setPhase hs hw, if_neg hc]

/-- A worker that only asks something. -/
theorem moved_ask (hs : s.engine.Staffed) (hw : s.engine.worker? i = some w)
    (hq : s.waiting i = none) {q : Question} {s' : Situation}
    (he : s' = (s.wait i (some q)).note i w.channel [.asked q.request])
    (hn : Desk.Next s.engine.config s.engine.systemPrompt w.channel
      ⟨s.engine.queue w.channel, s.engine.sessions.get? w.channel, some (i, w.phase, none)⟩
      [.worked i w.channel (.asked q.request)]
      ⟨s.engine.queue w.channel, s.engine.sessions.get? w.channel, some (i, w.phase, some q)⟩) :
    Moved s s' w.channel [.worked i w.channel (.asked q.request)] where
  next := by
    rw [he, desk_note, desk_wait hs hw, if_pos rfl, desk_of_worker hs hw, hq]
    exact hn
  record := by
    rw [he]
    rfl
  others := by
    intro c hc
    rw [he, desk_note, desk_wait hs hw, if_neg hc]

/-- A worker that reports another session than the engine keeps. -/
theorem moved_report (hs : s.engine.Staffed) (hw : s.engine.worker? i = some w)
    (hq : s.waiting i = none) {job : Job} (hp : w.phase = .busy job) {id : String}
    {next : Work.service.Reply (.report id) → Job} (hstep : job.step = .ask (.report id) next)
    (hother : s.engine.sessions.get? w.channel ≠ some (id : Text.Wide)) {s' : Situation}
    (he : s' = (({ s with engine :=
        { s.engine with sessions := s.engine.sessions.set w.channel id } } : Situation).wait i
          (some ⟨.store (.set w.channel id), fun r => .busy (next r)⟩)).note i w.channel
            [.asked (.store (.set w.channel id))]) :
    Moved s s' w.channel [.worked i w.channel (.asked (.store (.set w.channel id)))] := by
  have hset : ∀ c', c' ≠ w.channel →
      (s.engine.sessions.set w.channel id).get? (c' : String) = s.engine.sessions.get? c' := by
    intro c' hc
    exact Table.get?_set_of_ne _ (fun h => hc (Text.Wide.ofString_injective h)) _
  have hs' : ({ s.engine with
      sessions := s.engine.sessions.set w.channel id } : Engine).Staffed := hs.withSessions _
  have hwait := desk_wait (s := { s with engine :=
    { s.engine with sessions := s.engine.sessions.set w.channel id } }) hs' hw
    (some ⟨.store (.set w.channel id), fun r => .busy (next r)⟩)
  have hd := desk_of_worker hs hw
  rw [hq, hp] at hd
  refine ⟨?_, by rw [he]; rfl, ?_⟩
  · rw [he, desk_note, hwait, if_pos rfl, desk_sessions s w.channel hset, if_pos rfl, hd,
      Table.get?_set_self, hp]
    exact .reported hstep hother
  · intro c hc
    rw [he, desk_note, hwait, if_neg hc, desk_sessions s w.channel hset, if_neg hc]

/-- A free worker takes the next unit of work or leaves. -/
theorem moved_free (hs : s.engine.Staffed) (hw : s.engine.worker? i = some w)
    (hq : s.waiting i = none) (hp : w.phase = .free) :
    ∃ os, Moved s (s.after (.work i)) w.channel os := by
  have ha : s.after (.work i) = s.stepped i w (s.engine.takeNext i w.channel) := by
    simp only [after, hw, hq, Engine.step, hp]
  have hd := desk_of_worker hs hw
  rw [hq, hp] at hd
  cases hi : (s.engine.queue w.channel).items with
  | nil =>
    rw [Engine.takeNext_of_nil hi] at ha
    change _ = ({ s with engine := s.engine.dismiss i w.channel } : Situation).note
      i w.channel [.left] at ha
    have hqueue : s.engine.queue w.channel = ⟨[], (s.engine.queue w.channel).active⟩ := by
      rw [← hi]
    refine ⟨_, ?_, by rw [ha]; rfl, ?_⟩
    · rw [ha, desk_note, desk_dismiss hs hw, if_pos rfl, hd, hqueue]
      exact .left
    · intro c hc
      rw [ha, desk_note, desk_dismiss hs hw, if_neg hc]
  | cons work rest =>
    rw [Engine.takeNext_of_cons hi] at ha
    have hs' := hs.dequeue hi
    have hqueue : s.engine.queue w.channel =
        ⟨work :: rest, (s.engine.queue w.channel).active⟩ := by
      rw [← hi]
    have hsetPhase := desk_setPhase (s := { s with engine := s.engine.dequeue w.channel rest })
      hs' hw (.busy (.begin s.engine.config.engine s.engine.systemPrompt work))
    refine ⟨[.worked i w.channel (.took work)], ?_, ?_, ?_⟩
    · rw [ha]
      simp only [stepped, desk_note]
      rw [hsetPhase, if_pos rfl, desk_dequeue, if_pos rfl, hd, hqueue]
      change Desk.Next _ _ _ _ _ (Desk.mk _ _ (some (i, _, s.waiting i)))
      rw [hq]
      exact .took
    · rw [ha]
      simp only [stepped, note, hp]
      rfl
    · intro c hc
      rw [ha]
      simp only [stepped, desk_note]
      rw [hsetPhase, if_neg hc, desk_dequeue, if_neg hc]

/-- What is recorded when a unit of work has ended. -/
theorem deeds_concluded (job : Job) (c : String) (profile : ChannelProfile)
    (outcome : Except Failure Unit) :
    (Worker.Phase.busy job).deeds (Engine.concluded c profile outcome) =
      [.ended !outcome.isOk] := by
  cases outcome <;> rfl

/-- What the next move of a worker makes of the situation that is doing a unit of work. -/
theorem after_busy (hw : s.engine.worker? i = some w) (hq : s.waiting i = none) {job : Job}
    (hp : w.phase = .busy job) {step : Step Work.service Job (Except Failure Unit)}
    (hstep : job.step = step) :
    s.after (.work i) = s.stepped i w
      ((s.engine.serve w.channel step).1, (s.engine.serve w.channel step).2.inside .busy
        (Engine.concluded w.channel job.work.profile)) := by
  simp only [after, hw, hq, Engine.step, hp, hstep]

/-- A unit of work asks something: the outside is asked, the engine says what the channel has, or
it is told of a session, which it may have already. -/
theorem moved_asking (hs : s.engine.Staffed) (hw : s.engine.worker? i = some w)
    (hq : s.waiting i = none) {job : Job} (hp : w.phase = .busy job) {q : Work.Request}
    {next : Work.service.Reply q → Job} (hstep : job.step = .ask q next) :
    ∃ os, Moved s (s.after (.work i)) w.channel os := by
  have ha := after_busy hw hq hp hstep
  cases q with
  | outside q =>
    simp only [Engine.serve, Step.inside, stepped] at ha
    refine ⟨_, moved_ask hs hw hq ha ?_⟩
    rw [hp]
    exact .asked hstep
  | «recall» =>
    simp only [Engine.serve, Step.inside, stepped, hp, Worker.Phase.deeds] at ha
    refine ⟨_, moved_phase hs hw hq ha ?_⟩
    rw [hp]
    exact .recalled hstep
  | report id =>
    by_cases hknown : s.engine.sessions.get? w.channel = some (id : Text.Wide)
    · simp only [Engine.serve, hknown, if_true, Step.inside, stepped, hp,
        Worker.Phase.deeds] at ha
      refine ⟨_, moved_phase hs hw hq ha ?_⟩
      rw [hp, hknown]
      exact .known hstep
    · simp only [Engine.serve, hknown, if_false, Step.inside, stepped] at ha
      exact ⟨_, moved_report hs hw hq hp hstep hknown ha⟩

/-- A worker that is doing a unit of work does the next step of it. -/
theorem moved_busy (hs : s.engine.Staffed) (hw : s.engine.worker? i = some w)
    (hq : s.waiting i = none) {job : Job} (hp : w.phase = .busy job) :
    ∃ os, Moved s (s.after (.work i)) w.channel os := by
  cases hstep : job.step with
  | finished outcome =>
    have ha := after_busy hw hq hp hstep
    simp only [Engine.serve, Step.inside, stepped, hp, deeds_concluded] at ha
    refine ⟨_, moved_phase hs hw hq ha ?_⟩
    rw [hp]
    exact .finished hstep
  | silent next =>
    have ha := after_busy hw hq hp hstep
    simp only [Engine.serve, Step.inside, stepped, hp, Worker.Phase.deeds] at ha
    refine ⟨_, moved_phase hs hw hq ha ?_⟩
    rw [hp]
    exact .silent hstep
  | say line next =>
    have ha := after_busy hw hq hp hstep
    simp only [Engine.serve, Step.inside, stepped] at ha
    refine ⟨_, moved_phase hs hw hq ha ?_⟩
    rw [hp]
    exact .said hstep
  | ask q next => exact moved_asking hs hw hq hp hstep

/-- A worker that apologises does the next step of that. -/
theorem moved_apologising (hs : s.engine.Staffed) (hw : s.engine.worker? i = some w)
    (hq : s.waiting i = none) {rest : Dialogue Outside.service Unit}
    (hp : w.phase = .apologising rest) :
    ∃ os, Moved s (s.after (.work i)) w.channel os := by
  have ha : s.after (.work i) =
      s.stepped i w (s.engine, rest.step.inside .apologising fun _ => .free) := by
    simp only [after, hw, hq, Engine.step, hp]
  cases rest with
  | done =>
    simp only [Dialogue.step, Step.inside, stepped, hp, Worker.Phase.deeds] at ha
    refine ⟨_, moved_phase hs hw hq ha ?_⟩
    rw [hp]
    exact .settled
  | say line rest =>
    simp only [Dialogue.step, Step.inside, stepped] at ha
    refine ⟨_, moved_phase hs hw hq ha ?_⟩
    rw [hp]
    exact .sighed
  | ask q next =>
    simp only [Dialogue.step, Step.inside, stepped] at ha
    refine ⟨_, moved_ask hs hw hq ha ?_⟩
    rw [hp]
    exact .pleaded

/-- Whatever a worker does next is a step at the desk of its channel. -/
theorem moved_work (hs : s.engine.Staffed) (hw : s.engine.worker? i = some w)
    (hq : s.waiting i = none) : ∃ os, Moved s (s.after (.work i)) w.channel os := by
  cases hp : w.phase with
  | free => exact moved_free hs hw hq hp
  | busy job => exact moved_busy hs hw hq hp
  | apologising rest => exact moved_apologising hs hw hq hp

/-- An answer is a step at the desk of the channel of the worker that gets it. -/
theorem moved_reply (hs : s.engine.Staffed) (hw : s.engine.worker? i = some w) {q : Question}
    (hq : s.waiting i = some q) (answer : Outside.Answer) :
    ∃ os, Moved s (s.after (.reply i answer)) w.channel os := by
  have ha : s.after (.reply i answer) = s.answered i w q answer := by
    simp only [after, hw, hq]
  have hd := desk_of_worker hs hw
  rw [hq] at hd
  have hs' := hs.setPhase i (q.next (answer q.request))
  have hw' : (s.engine.setPhase i (q.next (answer q.request))).worker? i =
      some { w with phase := q.next (answer q.request) } :=
    Engine.worker?_setPhase_self hw _
  have hwait := desk_wait
    (s := { s with engine := s.engine.setPhase i (q.next (answer q.request)) }) hs' hw' none
  refine ⟨_, ?_, by rw [ha]; rfl, ?_⟩
  · rw [ha]
    simp only [answered, desk_note]
    rw [hwait, if_pos rfl, desk_setPhase hs hw, if_pos rfl, hd]
    exact .heard answer
  · intro c hc
    rw [ha]
    simp only [answered, desk_note]
    rw [hwait, if_neg hc, desk_setPhase hs hw, if_neg hc]

end Worker

section Coming

variable {s : Situation}

/-- The desk of a channel after a unit of work was queued there. -/
theorem desk_enqueue (s : Situation) (c : String) (work : Work) :
    ({ s with engine := s.engine.enqueue c work } : Situation).desk c =
      { queue := ⟨(s.engine.queue c).items ++ [work], true⟩
        session := s.engine.sessions.get? c
        worker := ((s.engine.enqueue c work).workerOf? c).map
          fun w => (w.1, w.2.phase, s.waiting w.1) } := by
  have hq := Engine.queue_enqueue s.engine c work c
  have hsessions : (s.engine.enqueue c work).sessions = s.engine.sessions := by
    simp only [Engine.enqueue]
    split <;> rfl
  rw [if_pos rfl] at hq
  simp only [desk, hq, hsessions]

/-- A unit of work that is queued changes the desk of its channel alone. -/
theorem desk_enqueue_of_ne (s : Situation) {c c' : String} (hc : c' ≠ c) (work : Work) :
    ({ s with engine := s.engine.enqueue c work } : Situation).desk c' = s.desk c' := by
  have hq := Engine.queue_enqueue s.engine c work c'
  have ho := Engine.workerOf?_enqueue_of_ne s.engine hc work
  have hsessions : (s.engine.enqueue c work).sessions = s.engine.sessions := by
    simp only [Engine.enqueue]
    split <;> rfl
  rw [if_neg hc] at hq
  simp only [desk, hq, ho, hsessions]

/-- An event that is not admitted changes the record only, and there no channel's. -/
theorem after_receive_of_not_admitted {item : Incoming} (ha : s.engine.admit? item = none) :
    s.after (.receive item) = { s with record := s.record ++ [.received item false []] } := by
  simp only [after, Engine.receive, ha]

/-- What is admitted is queued for its channel and written into the record. -/
theorem after_receive_of_admitted {item : Incoming} {profile : ChannelProfile}
    (ha : s.engine.admit? item = some profile) :
    s.after (.receive item) =
      { s with
        engine := s.engine.enqueue item.channelId ⟨item, profile⟩
        record := s.record ++ [.received item true (Engine.admissionNotes item)] } := by
  simp only [after, Engine.receive, ha]

/-- What it takes to be admitted. -/
theorem admitted_of_admit? {e : Engine} {item : Incoming} {profile : ChannelProfile}
    (ha : e.admit? item = some profile) :
    item.isBot = false ∧ item.userId = e.config.operator ∧
      e.config.findChannel item.channelName = some profile := by
  unfold Engine.admit? at ha
  split at ha
  · exact absurd ha.symm (Option.some_ne_none _)
  · rename_i h
    simp only [Bool.or_eq_true, bne_iff_ne, ne_eq, not_or, Bool.not_eq_true,
      Decidable.not_not] at h
    exact ⟨h.1, h.2, ha⟩

/-- An admitted event for a channel with a worker is queued. -/
theorem next_of_active (hs : s.Sound) {item : Incoming} {profile : ChannelProfile}
    (hactive : (s.engine.queue item.channelId).active = true)
    (hadmitted : item.isBot = false ∧ item.userId = s.engine.config.operator ∧
      s.engine.config.findChannel item.channelName = some profile) :
    Desk.Next s.engine.config s.engine.systemPrompt item.channelId (s.desk item.channelId)
      [.received item true (Engine.admissionNotes item)]
      (desk { s with engine := s.engine.enqueue item.channelId ⟨item, profile⟩ }
        item.channelId) := by
  have hmem := (hs.staffed.active item.channelId).mp hactive
  cases ho : s.engine.workerOf? item.channelId with
  | none => exact absurd hmem (Engine.workerOf?_eq_none_iff.mp ho)
  | some w =>
    have hsame : (s.engine.enqueue item.channelId ⟨item, profile⟩).workerOf? item.channelId =
        some w := by
      simp only [Engine.workerOf?, Engine.workers_enqueue_of_active hactive]
      exact ho
    have hd : s.desk item.channelId = ⟨⟨(s.engine.queue item.channelId).items, true⟩,
        s.engine.sessions.get? item.channelId, some (w.1, w.2.phase, s.waiting w.1)⟩ := by
      simp only [desk, ho, Option.map_some, ← hactive]
    rw [desk_enqueue, hsame, hd]
    exact .queued hadmitted rfl

/-- An admitted event for a channel without a worker calls one. Nothing is asked with the number
of a worker that was never called. -/
theorem next_of_not_active (hs : s.Sound) {item : Incoming} {profile : ChannelProfile}
    (hactive : (s.engine.queue item.channelId).active = false)
    (hadmitted : item.isBot = false ∧ item.userId = s.engine.config.operator ∧
      s.engine.config.findChannel item.channelName = some profile) :
    Desk.Next s.engine.config s.engine.systemPrompt item.channelId (s.desk item.channelId)
      [.received item true (Engine.admissionNotes item)]
      (desk { s with engine := s.engine.enqueue item.channelId ⟨item, profile⟩ }
        item.channelId) := by
  have hmem : item.channelId ∉ s.engine.workers.map (·.2.channel) := by
    rw [← hs.staffed.active, hactive]
    exact Bool.false_ne_true
  have ho := Engine.workerOf?_eq_none_iff.mpr hmem
  have hnew : (s.engine.enqueue item.channelId ⟨item, profile⟩).workerOf? item.channelId =
      some (s.engine.nextWorker, { channel := item.channelId }) := by
    have hfind : (s.engine.workers.find? fun w => w.2.channel == item.channelId) = none := ho
    simp only [Engine.workerOf?, Engine.workers_enqueue_of_not_active hactive,
      List.find?_append, hfind]
    simp
  have hd : s.desk item.channelId = ⟨⟨(s.engine.queue item.channelId).items, false⟩,
      s.engine.sessions.get? item.channelId, none⟩ := by
    simp only [desk, ho, Option.map_none, ← hactive]
  have hfree : s.waiting s.engine.nextWorker = none := by
    cases hq : s.waiting s.engine.nextWorker with
    | none => rfl
    | some q =>
      obtain ⟨v, hv⟩ := hs.waiting _ q hq
      rw [Engine.worker?_eq_none_of_lt hs.staffed (Nat.le_refl _)] at hv
      exact absurd hv.symm (Option.some_ne_none _)
  rw [desk_enqueue, hnew, Option.map_some, hfree, hd]
  exact .called _ hadmitted rfl

/-- An admitted event is a step at the desk of its channel. -/
theorem moved_receive (hs : s.Sound) {item : Incoming} {profile : ChannelProfile}
    (ha : s.engine.admit? item = some profile) :
    ∃ os, Moved s (s.after (.receive item)) item.channelId os := by
  have he := after_receive_of_admitted ha
  have hadmitted := admitted_of_admit? ha
  refine ⟨[.received item true (Engine.admissionNotes item)], ?_, by rw [he], ?_⟩
  · rw [he]
    cases hactive : (s.engine.queue item.channelId).active with
    | true => exact next_of_active hs hactive hadmitted
    | false => exact next_of_not_active hs hactive hadmitted
  · intro c hc
    rw [he]
    exact desk_enqueue_of_ne s hc _

/-- A channel is at rest where its desk is. -/
theorem atRest_desk {c : String} (h : s.atRest c = true) : (s.desk c).atRest = true := by
  cases ho : s.engine.workerOf? c with
  | none => simp only [desk, ho, Option.map_none, Desk.atRest]
  | some w =>
    have hmem := List.mem_of_find?_eq_some ho
    have hc : w.2.channel = c := by simpa using List.find?_some ho
    have hw := List.all_eq_true.mp h w hmem
    simp only [desk, ho, Option.map_some, Desk.atRest]
    simpa [hc] using hw

/-- A reset is a step at the desk of the channel. -/
theorem moved_reset {c : String} (hr : s.atRest c = true) (answer : Outside.Answer) :
    ∃ os, Moved s (s.after (.reset c answer)) c os := by
  have herase : ∀ c', c' ≠ c →
      (s.engine.sessions.erase (c : Text.Wide)).get? (c' : String) =
        s.engine.sessions.get? c' := by
    intro c' hc
    exact Table.get?_erase_of_ne _ fun h => hc (Text.Wide.ofString_injective h)
  have he : s.after (.reset c answer) =
      { s with
        engine := { s.engine with sessions := s.engine.sessions.erase c }
        record := s.record ++
          [.reset c ((s.engine.reset c).2.run (fun _ q => (answer q, ())) ()).2.2] } := by
    simp only [after, hr, if_true]
    rfl
  have hd := desk_sessions s c herase
  refine ⟨_, ?_, by rw [he], ?_⟩
  · rw [he]
    change Desk.Next _ _ _ _ _ (desk
      { s with engine := { s.engine with sessions := s.engine.sessions.erase c } } c)
    rw [hd, if_pos rfl, Table.get?_erase_self]
    exact .reset s.engine answer (atRest_desk hr)
  · intro c' hc
    rw [he]
    exact (hd c').trans (if_neg hc)

end Coming

/-! ## Every move -/

/-- A move that is not possible changes no desk and no record. -/
theorem unmoved {s : Situation} {m : Move} (h : s.after m = s) :
    (∀ c, (s.after m).desk c = s.desk c) ∧ ∀ c, (s.after m).recordOf c = s.recordOf c := by
  rw [h]
  exact ⟨fun _ => rfl, fun _ => rfl⟩

/-- A move is a step at one desk, or only an event that is not admitted, or not possible. -/
theorem after_moved {s : Situation} (hs : s.Sound) (m : Move) :
    (∃ c os, Moved s (s.after m) c os) ∨
      ((∀ c, (s.after m).desk c = s.desk c) ∧ ∀ c, (s.after m).recordOf c = s.recordOf c) := by
  cases m with
  | receive item =>
    cases ha : s.engine.admit? item with
    | none =>
      right
      rw [after_receive_of_not_admitted ha]
      refine ⟨fun c => rfl, fun c => ?_⟩
      simp [recordOf, Occurrence.concerns]
    | some profile => exact .inl ⟨_, moved_receive hs ha⟩
  | reset c answer =>
    by_cases hr : s.atRest c = true
    · exact .inl ⟨c, moved_reset hr answer⟩
    · exact .inr (unmoved (if_neg hr))
  | work i =>
    cases hw : s.engine.worker? i with
    | none => exact .inr (unmoved (by simp only [after, hw]))
    | some w =>
      cases hq : s.waiting i with
      | none => exact .inl ⟨_, moved_work hs.staffed hw hq⟩
      | some q => exact .inr (unmoved (by simp only [after, hw, hq]))
  | reply i answer =>
    cases hw : s.engine.worker? i with
    | none => exact .inr (unmoved (by simp only [after, hw]))
    | some w =>
      cases hq : s.waiting i with
      | none => exact .inr (unmoved (by simp only [after, hw, hq]))
      | some q => exact .inl ⟨_, moved_reply hs.staffed hw hq answer⟩

/-- The situation at the start is sound. -/
theorem start_sound (config : Config) (systemPrompt : Option String) (sessions : SessionTable) :
    (start config systemPrompt sessions).Sound where
  staffed := by
    refine ⟨List.nodup_nil, ?_, List.nodup_nil, ?_, ?_⟩
    · intro w hw
      exact absurd hw List.not_mem_nil
    · intro c
      simp [start, Engine.queue]
    · intro c hi
      exact absurd rfl hi
  waiting := by
    intro i q hq
    exact absurd hq.symm (Option.some_ne_none q)

/-! ## Every run -/

/-- What is soundness to one worker: whoever was there still is, unless nothing is waited for. -/
theorem Sound.of_step {s s' : Situation} (hs : s.Sound) {i : Nat} (he : s'.engine.Staffed)
    (hothers : ∀ j, j ≠ i → s'.engine.worker? j = s.engine.worker? j)
    (hwaiting : ∀ j, j ≠ i → s'.waiting j = s.waiting j)
    (hself : ∀ q, s'.waiting i = some q → ∃ w, s'.engine.worker? i = some w) : s'.Sound where
  staffed := he
  waiting := by
    intro j q hq
    by_cases hj : j = i
    · subst hj
      exact hself q hq
    · rw [hothers j hj]
      rw [hwaiting j hj] at hq
      exact hs.waiting j q hq

/-- The step of a worker that waits for nothing leaves a sound situation sound. -/
theorem Sound.stepped {s : Situation} (hs : s.Sound) {i : Nat} {w : Worker}
    (hw : s.engine.worker? i = some w) (hq : s.waiting i = none) :
    (s.stepped i w (s.engine.step i)).Sound := by
  obtain ⟨he, hothers, hself⟩ := hs.staffed.step hw
  have hset : ∀ p j, j ≠ i → ((s.engine.step i).1.setPhase i p).worker? j =
      s.engine.worker? j := by
    intro p j hj
    rw [Engine.worker?_setPhase_of_ne _ hj, hothers j hj]
  have hidle : ∀ q, s.waiting i = some q →
      ∃ v, (s.stepped i w (s.engine.step i)).engine.worker? i = some v := by
    intro q hq'
    rw [hq] at hq'
    exact absurd hq'.symm (Option.some_ne_none q)
  cases hstep : s.engine.step i with
  | mk e step =>
    rw [hstep] at he hothers hself hset hidle
    cases step with
    | finished r => exact hs.of_step he hothers (fun _ _ => rfl) hidle
    | silent phase => exact hs.of_step (he.setPhase i phase) (hset phase) (fun _ _ => rfl) hidle
    | say line phase =>
      exact hs.of_step (he.setPhase i phase) (hset phase) (fun _ _ => rfl) hidle
    | ask q next =>
      refine hs.of_step he hothers (fun j hj => if_neg hj) fun _ _ => ⟨w, hself ?_⟩
      intro h
      cases h

/-- An answer leaves a sound situation sound. -/
theorem Sound.answered {s : Situation} (hs : s.Sound) {i : Nat} (w : Worker) (q : Question)
    (answer : Outside.Answer) : (s.answered i w q answer).Sound := by
  refine hs.of_step (hs.staffed.setPhase i _) (fun j hj => Engine.worker?_setPhase_of_ne _ hj _)
    (fun j hj => if_neg hj) fun q' hq' => ?_
  have hnone : (s.answered i w q answer).waiting i = none := if_pos rfl
  rw [hnone] at hq'
  exact absurd hq'.symm (Option.some_ne_none q')

/-- Every move leaves a sound situation sound. -/
theorem Sound.after {s : Situation} (hs : s.Sound) (m : Move) : (s.after m).Sound := by
  cases m with
  | receive item =>
    cases ha : s.engine.admit? item with
    | none =>
      rw [after_receive_of_not_admitted ha]
      exact ⟨hs.staffed, hs.waiting⟩
    | some profile =>
      rw [after_receive_of_admitted ha]
      refine ⟨hs.staffed.enqueue _ _, fun i q hq => ?_⟩
      obtain ⟨w, hw⟩ := hs.waiting i q hq
      exact ⟨w, Engine.worker?_enqueue hw _ _⟩
  | reset c answer =>
    simp only [Situation.after]
    split
    · exact ⟨hs.staffed.withSessions _, hs.waiting⟩
    · exact hs
  | work i =>
    simp only [Situation.after]
    split
    · rename_i w hw hq
      exact hs.stepped hw hq
    · exact hs
  | reply i answer =>
    simp only [Situation.after]
    split
    · exact hs.answered _ _ answer
    · exact hs

/-- No move changes the settings or the system prompt. -/
theorem settings_after (s : Situation) (m : Move) :
    (s.after m).engine.config = s.engine.config ∧
      (s.after m).engine.systemPrompt = s.engine.systemPrompt := by
  cases m with
  | receive item =>
    cases ha : s.engine.admit? item with
    | none =>
      rw [after_receive_of_not_admitted ha]
      exact ⟨rfl, rfl⟩
    | some profile =>
      rw [after_receive_of_admitted ha]
      exact Engine.settings_enqueue _ _ _
  | reset c answer =>
    simp only [after]
    split <;> exact ⟨rfl, rfl⟩
  | work i =>
    simp only [after]
    split
    · rename_i w hw hq
      have h := Engine.settings_step s.engine i
      cases hstep : s.engine.step i with
      | mk e step =>
        rw [hstep] at h
        cases step <;> exact h
    · exact ⟨rfl, rfl⟩
  | reply i answer =>
    simp only [after]
    split <;> exact ⟨rfl, rfl⟩

/-- A run keeps the workers, the queues and the waiting together, and what was set at its start. -/
theorem run_sound {s : Situation} (hs : s.Sound) (ms : List Move) :
    (s.run ms).Sound ∧ (s.run ms).engine.config = s.engine.config ∧
      (s.run ms).engine.systemPrompt = s.engine.systemPrompt := by
  refine run_induction (P := fun t => t.Sound ∧ t.engine.config = s.engine.config ∧
    t.engine.systemPrompt = s.engine.systemPrompt) ?_ ⟨hs, rfl, rfl⟩ ms
  rintro t m ⟨ht, hconfig, hprompt⟩
  obtain ⟨hc, hp⟩ := settings_after t m
  exact ⟨ht.after m, hc.trans hconfig, hp.trans hprompt⟩

/-- The record of a channel after a step at a desk. -/
theorem Moved.recordOf {s s' : Situation} {c : String} {os : List Occurrence}
    (h : Moved s s' c os) (c' : String) :
    s'.recordOf c' = s.recordOf c' ++ if c' = c then os else [] := by
  simp only [Situation.recordOf, h.record, List.filter_append]
  congr 1
  split
  · rename_i hc
    rw [List.filter_eq_self]
    intro o ho
    rw [h.next.concerns ho c', hc, beq_self_eq_true]
  · rename_i hc
    rw [List.filter_eq_nil_iff]
    intro o ho
    rw [h.next.concerns ho c', beq_iff_eq]
    exact fun he => hc he.symm

/-- **A run, seen from one channel, is a run of its desk**, and what the desk records is the
record of the channel. -/
theorem desk_run {s : Situation} (hs : s.Sound) (ms : List Move) (c : String) :
    ∃ os, (s.run ms).recordOf c = s.recordOf c ++ os ∧
      Desk.Run s.engine.config s.engine.systemPrompt c (s.desk c) os ((s.run ms).desk c) := by
  refine (run_induction (P := fun t => (t.Sound ∧ t.engine.config = s.engine.config ∧
    t.engine.systemPrompt = s.engine.systemPrompt) ∧ ∃ os, t.recordOf c = s.recordOf c ++ os ∧
      Desk.Run s.engine.config s.engine.systemPrompt c (s.desk c) os (t.desk c)) ?_
    ⟨⟨hs, rfl, rfl⟩, [], by rw [List.append_nil], .nil _⟩ ms).2
  rintro t m ⟨⟨ht, hconfig, hprompt⟩, os, hrecord, hrun⟩
  obtain ⟨hc, hp⟩ := settings_after t m
  refine ⟨⟨ht.after m, hc.trans hconfig, hp.trans hprompt⟩, ?_⟩
  rcases after_moved ht m with ⟨c', os', hm⟩ | ⟨hdesk, hrecordOf⟩
  · by_cases hcc : c = c'
    · subst hcc
      refine ⟨os ++ os', ?_, ?_⟩
      · rw [hm.recordOf, if_pos rfl, hrecord, List.append_assoc]
      · have hnext := hm.next
        rw [hconfig, hprompt] at hnext
        exact .snoc hrun hnext
    · refine ⟨os, ?_, ?_⟩
      · rw [hm.recordOf, if_neg hcc, List.append_nil, hrecord]
      · rw [hm.others c hcc]
        exact hrun
  · refine ⟨os, ?_, ?_⟩
    · rw [hrecordOf, hrecord]
    · rw [hdesk]
      exact hrun

end Situation

end ChatRelay
