import ChatRelay.Engine
import ChatRelay.Proofs.Table
import Mathlib.Data.List.Find
import Mathlib.Data.List.Nodup

/-!
# The workers of an engine

The workers of an engine have different numbers and serve different channels, and a channel has a
worker exactly where its queue says that it is active. `Engine.Staffed` says so, and everything
that an engine does keeps it. So the worker of a channel can be looked up, and every operation of
the engine changes the worker of one channel at most.
-/

namespace ChatRelay

/-- Different texts are different wide texts. -/
theorem Text.Wide.ofString_injective : Function.Injective Text.Wide.ofString := by
  intro s t h
  rw [← text_ofString s, h, text_ofString]

namespace Engine

/-- The worker of a channel, with its number. -/
def workerOf? (e : Engine) (channel : String) : Option (Nat × Worker) :=
  e.workers.find? fun w => w.2.channel == channel

/-- The workers of an engine and its queues fit together. -/
structure Staffed (e : Engine) : Prop where
  /-- Every worker has a number of its own. -/
  numbers : (e.workers.map (·.1)).Nodup
  /-- The next number is free. -/
  below : ∀ w ∈ e.workers, w.1 < e.nextWorker
  /-- Every channel has one worker at most. -/
  channels : (e.workers.map (·.2.channel)).Nodup
  /-- A queue is active where its channel has a worker. -/
  active : ∀ c, (e.queue c).active = true ↔ c ∈ e.workers.map (·.2.channel)
  /-- A queue that is not empty is active. -/
  served : ∀ c, (e.queue c).items ≠ [] → (e.queue c).active = true

/-! ## Looking up workers -/

/-- A worker that is found by its number is one of the workers. -/
theorem mem_of_worker? {e : Engine} {i : Nat} {w : Worker} (h : e.worker? i = some w) :
    (i, w) ∈ e.workers := by
  obtain ⟨p, hp, rfl⟩ := Option.map_eq_some_iff.mp h
  have hi : p.1 = i := by simpa using List.find?_some hp
  rw [← hi]
  exact List.mem_of_find?_eq_some hp

/-- No worker has a number that was not given out yet. -/
theorem worker?_eq_none_of_lt {e : Engine} (hs : e.Staffed) {i : Nat} (h : e.nextWorker ≤ i) :
    e.worker? i = none := by
  cases hw : e.worker? i with
  | none => rfl
  | some w =>
    have hlt : i < e.nextWorker := hs.below _ (mem_of_worker? hw)
    omega

/-- In a list of things with different keys, the first thing with a key is the only one. -/
theorem find?_of_nodup {α β : Type} [BEq β] [LawfulBEq β] (key : α → β) {l : List α} {a : α}
    (hl : (l.map key).Nodup) (ha : a ∈ l) : l.find? (fun x => key x == key a) = some a := by
  induction l with
  | nil => simp at ha
  | cons x rest ih =>
    rw [List.map_cons, List.nodup_cons] at hl
    rcases List.mem_cons.mp ha with rfl | hmem
    · simp
    · have hne : (key x == key a) = false := by
        rw [beq_eq_false_iff_ne]
        intro he
        exact hl.1 (he ▸ List.mem_map_of_mem hmem)
      rw [List.find?_cons, hne]
      exact ih hl.2 hmem

/-- A worker is found by its number. -/
theorem worker?_of_mem {e : Engine} (hs : e.Staffed) {w : Nat × Worker} (h : w ∈ e.workers) :
    e.worker? w.1 = some w.2 := by
  have hf := find?_of_nodup (fun w : Nat × Worker => w.1) hs.numbers h
  simp only [worker?, hf, Option.map_some]

/-- A worker is found by its channel. -/
theorem workerOf?_of_mem {e : Engine} (hs : e.Staffed) {w : Nat × Worker} (h : w ∈ e.workers) :
    e.workerOf? w.2.channel = some w :=
  find?_of_nodup (fun w : Nat × Worker => w.2.channel) hs.channels h

/-- The worker of a channel is the one with that channel. -/
theorem workerOf?_eq_some_iff {e : Engine} (hs : e.Staffed) {c : String} {w : Nat × Worker} :
    e.workerOf? c = some w ↔ e.worker? w.1 = some w.2 ∧ w.2.channel = c := by
  constructor
  · intro h
    have hc : w.2.channel = c := by simpa using List.find?_some h
    exact ⟨worker?_of_mem hs (List.mem_of_find?_eq_some h), hc⟩
  · rintro ⟨hw, rfl⟩
    exact workerOf?_of_mem hs (mem_of_worker? hw)

/-- A channel has no worker just where it is the channel of none. -/
theorem workerOf?_eq_none_iff {e : Engine} {c : String} :
    e.workerOf? c = none ↔ c ∉ e.workers.map (·.2.channel) := by
  simp [workerOf?, List.find?_eq_none]

/-! ## Changing a phase -/

/-- Changing a phase changes no number and no channel. -/
theorem map_setPhase {α : Type} (e : Engine) (i : Nat) (p : Worker.Phase) (f : Nat → String → α) :
    (e.setPhase i p).workers.map (fun w => f w.1 w.2.channel) =
      e.workers.map (fun w => f w.1 w.2.channel) := by
  simp only [setPhase, List.map_map]
  apply List.map_congr_left
  intro w _
  by_cases h : w.1 = i <;> simp [h]

/-- Changing a phase leaves the workers in order. -/
theorem Staffed.setPhase {e : Engine} (hs : e.Staffed) (i : Nat) (p : Worker.Phase) :
    (e.setPhase i p).Staffed where
  numbers := by
    rw [map_setPhase e i p fun n _ => n]
    exact hs.numbers
  below := by
    intro w hw
    have hn : w.1 ∈ (e.setPhase i p).workers.map (·.1) := List.mem_map_of_mem hw
    rw [map_setPhase e i p fun n _ => n] at hn
    obtain ⟨v, hv, he⟩ := List.mem_map.mp hn
    rw [← he]
    exact hs.below v hv
  channels := by
    rw [map_setPhase e i p fun _ c => c]
    exact hs.channels
  active := by
    intro c
    rw [map_setPhase e i p fun _ c => c]
    exact hs.active c
  served := hs.served

/-- Looking up after a change of phase: the first worker that fits is the same as before. -/
theorem find?_setPhase (e : Engine) (i : Nat) (p : Worker.Phase) (q : Nat → String → Bool) :
    ((e.setPhase i p).workers.find? fun w => q w.1 w.2.channel) =
      (e.workers.find? fun w => q w.1 w.2.channel).map
        fun w => if w.1 = i then (w.1, { w.2 with phase := p }) else w := by
  simp only [setPhase, List.find?_map]
  congr 1
  apply congrArg (fun f => List.find? f e.workers)
  funext w
  by_cases h : w.1 = i <;> simp [h]

/-- Changing a phase changes the worker with that number alone. -/
theorem worker?_setPhase (e : Engine) (i j : Nat) (p : Worker.Phase) :
    (e.setPhase i p).worker? j =
      (e.worker? j).map fun w => if j = i then { w with phase := p } else w := by
  have hf := find?_setPhase e i p fun n _ => n == j
  simp only [worker?, hf, Option.map_map]
  cases h : e.workers.find? fun w => w.1 == j with
  | none => rfl
  | some w =>
    have hj : w.1 = j := by simpa using List.find?_some h
    by_cases hi : j = i <;> simp [hj, hi]

/-- Changing a phase changes the worker of a channel where it has that number. -/
theorem workerOf?_setPhase (e : Engine) (i : Nat) (p : Worker.Phase) (c : String) :
    (e.setPhase i p).workerOf? c =
      (e.workerOf? c).map fun w => if w.1 = i then (w.1, { w.2 with phase := p }) else w :=
  find?_setPhase e i p fun _ channel => channel == c

/-- Other sessions leave the workers in order. -/
theorem Staffed.withSessions {e : Engine} (hs : e.Staffed) (sessions : SessionTable) :
    ({ e with sessions } : Engine).Staffed :=
  ⟨hs.numbers, hs.below, hs.channels, hs.active, hs.served⟩

/-! ## Changing a queue -/

/-- The queues after one queue was set. -/
theorem queue_of_set {e e' : Engine} {c : String} {q : Queue} (h : e'.queues = e.queues.set c q)
    (c' : String) : e'.queue c' = if c' = c then q else e.queue c' := by
  by_cases hc : c' = c
  · subst hc
    simp only [queue, h, Table.get?_set_self, Option.getD_some, if_true]
  · simp only [queue, h, Table.get?_set_of_ne _ hc, hc, if_false]

/-- A unit of work goes to the end of the queue of its channel, which is active then. -/
theorem queue_enqueue (e : Engine) (c : String) (work : Work) (c' : String) :
    (e.enqueue c work).queue c' =
      if c' = c then { items := (e.queue c).items ++ [work], active := true } else e.queue c' := by
  apply queue_of_set
  cases ha : (e.queue c).active <;> simp [enqueue, ha]

/-- Where a worker was called before, none is called. -/
theorem workers_enqueue_of_active {e : Engine} {c : String} (h : (e.queue c).active = true)
    (work : Work) : (e.enqueue c work).workers = e.workers := by
  simp only [enqueue, h, if_true]

/-- Where no worker was called before, one is called. -/
theorem workers_enqueue_of_not_active {e : Engine} {c : String} (h : (e.queue c).active = false)
    (work : Work) :
    (e.enqueue c work).workers = e.workers ++ [(e.nextWorker, { channel := c })] := by
  simp only [enqueue, h, Bool.false_eq_true, if_false]

/-- Where something is queued after that, the channel is active: the one that gets the unit of work
is, and the others are as they were. -/
theorem Staffed.served_enqueue {e : Engine} (hs : e.Staffed) (c : String) (work : Work)
    (c' : String) (hi : ((e.enqueue c work).queue c').items ≠ []) :
    ((e.enqueue c work).queue c').active = true := by
  rw [queue_enqueue] at hi ⊢
  by_cases hc : c' = c
  · rw [if_pos hc]
  · rw [if_neg hc] at hi ⊢
    exact hs.served c' hi

/-- A unit of work for a channel with a worker is queued, and the workers are the same. -/
theorem Staffed.enqueue_of_active {e : Engine} (hs : e.Staffed) {c : String}
    (ha : (e.queue c).active = true) (work : Work) : (e.enqueue c work).Staffed := by
  have hw := workers_enqueue_of_active ha work
  have hn : (e.enqueue c work).nextWorker = e.nextWorker := by
    simp only [Engine.enqueue, ha, if_true]
  refine ⟨hw ▸ hs.numbers, ?_, hw ▸ hs.channels, ?_, hs.served_enqueue c work⟩
  · rw [hw, hn]
    exact hs.below
  · intro c'
    rw [hw, queue_enqueue]
    by_cases hc : c' = c
    · subst hc
      simpa using (hs.active c').mp ha
    · rw [if_neg hc]
      exact hs.active c'

/-- A unit of work for a channel without a worker calls one, with a number that no other worker
has. -/
theorem Staffed.enqueue_of_not_active {e : Engine} (hs : e.Staffed) {c : String}
    (ha : (e.queue c).active = false) (work : Work) : (e.enqueue c work).Staffed := by
  have hw := workers_enqueue_of_not_active ha work
  have hn : (e.enqueue c work).nextWorker = e.nextWorker + 1 := by
    simp only [Engine.enqueue, ha, Bool.false_eq_true, if_false]
  have hnew : e.nextWorker ∉ e.workers.map (·.1) := by
    intro hmem
    obtain ⟨w, hw, he⟩ := List.mem_map.mp hmem
    have hlt := hs.below w hw
    omega
  have hfree : c ∉ e.workers.map (·.2.channel) := by
    intro hmem
    rw [(hs.active c).mpr hmem] at ha
    exact Bool.noConfusion ha
  refine ⟨?_, ?_, ?_, ?_, hs.served_enqueue c work⟩
  · rw [hw, List.map_append]
    exact List.nodup_append_comm.mp (List.nodup_cons.mpr ⟨hnew, hs.numbers⟩)
  · intro w hmem
    rw [hw, List.mem_append] at hmem
    rw [hn]
    rcases hmem with hmem | hmem
    · have hlt := hs.below w hmem
      omega
    · rw [List.mem_singleton] at hmem
      subst hmem
      exact Nat.lt_succ_self _
  · rw [hw, List.map_append]
    exact List.nodup_append_comm.mp (List.nodup_cons.mpr ⟨hfree, hs.channels⟩)
  · intro c'
    rw [hw, queue_enqueue, List.map_append, List.mem_append]
    by_cases hc : c' = c
    · simp [hc]
    · rw [if_neg hc, hs.active c']
      simp [hc]

/-- Queueing a unit of work keeps the workers of the engine in order. -/
theorem Staffed.enqueue {e : Engine} (hs : e.Staffed) (c : String) (work : Work) :
    (e.enqueue c work).Staffed := by
  cases ha : (e.queue c).active with
  | true => exact hs.enqueue_of_active ha work
  | false => exact hs.enqueue_of_not_active ha work

/-- Called or not, the worker of another channel is the same as before. -/
theorem workerOf?_enqueue_of_ne (e : Engine) {c c' : String} (h : c' ≠ c) (work : Work) :
    (e.enqueue c work).workerOf? c' = e.workerOf? c' := by
  have hne : (c == c') = false := beq_eq_false_iff_ne.mpr (Ne.symm h)
  cases ha : (e.queue c).active with
  | true => simp only [workerOf?, workers_enqueue_of_active ha]
  | false => simp [workerOf?, workers_enqueue_of_not_active ha, List.find?_append, hne]

/-- Those who are there stay. -/
theorem worker?_enqueue {e : Engine} {i : Nat} {w : Worker} (hw : e.worker? i = some w)
    (c : String) (work : Work) : (e.enqueue c work).worker? i = some w := by
  cases ha : (e.queue c).active with
  | true =>
    simp only [worker?, workers_enqueue_of_active ha]
    exact hw
  | false =>
    obtain ⟨v, hv, he⟩ := Option.map_eq_some_iff.mp hw
    simp only [worker?, workers_enqueue_of_not_active ha, List.find?_append, hv,
      Option.some_or, Option.map_some, he]

/-- A worker that is there after something was queued was there before, or is about to look into
its queue. -/
theorem worker?_of_enqueue {e : Engine} {c : String} {work : Work} {i : Nat} {w : Worker}
    (hw : (e.enqueue c work).worker? i = some w) : e.worker? i = some w ∨ w.phase = .free := by
  cases ha : (e.queue c).active with
  | true =>
    simp only [worker?, workers_enqueue_of_active ha] at hw
    exact .inl hw
  | false =>
    simp only [worker?, workers_enqueue_of_not_active ha, List.find?_append] at hw
    obtain ⟨v, hv, rfl⟩ := Option.map_eq_some_iff.mp hw
    rcases Option.or_eq_some_iff.mp hv with hv | ⟨-, hv⟩
    · exact .inl (by simp only [worker?, hv, Option.map_some])
    · rw [List.mem_singleton.mp (List.mem_of_find?_eq_some hv)]
      exact .inr rfl

/-! ## Leaving -/

/-- The engine after a worker has left the empty queue of its channel. -/
def dismiss (e : Engine) (i : Nat) (c : String) : Engine :=
  { e with
    queues := e.queues.set c { e.queue c with active := false }
    workers := e.workers.filter fun w => w.1 != i }

/-- Where nothing is left in its queue, a worker leaves. -/
theorem takeNext_of_nil {e : Engine} {c : String} (h : (e.queue c).items = []) (i : Nat) :
    e.takeNext i c = (e.dismiss i c, .finished ()) := by
  simp only [takeNext]
  split
  · rfl
  · rename_i hcons
    rw [h] at hcons
    exact absurd hcons (List.cons_ne_nil _ _).symm

/-- The queue of a worker that leaves is no longer active. -/
theorem queue_dismiss (e : Engine) (i : Nat) (c c' : String) :
    (e.dismiss i c).queue c' = if c' = c then { e.queue c with active := false } else e.queue c' :=
  queue_of_set rfl c'

/-- Of workers with different channels, those that are not the worker of a channel are those of
the other channels. -/
theorem Staffed.number_ne_iff {e : Engine} (hs : e.Staffed) {i : Nat} {w : Worker}
    (hw : e.worker? i = some w) {v : Nat × Worker} (hv : v ∈ e.workers) :
    v.1 ≠ i ↔ v.2.channel ≠ w.channel := by
  have hi := worker?_of_mem hs hv
  have hc := workerOf?_of_mem hs hv
  have hcw : e.workerOf? w.channel = some (i, w) := (workerOf?_eq_some_iff hs).mpr ⟨hw, rfl⟩
  constructor
  · intro hne he
    rw [he, hcw] at hc
    exact hne (congrArg Prod.fst (Option.some.inj hc)).symm
  · intro hne he
    rw [he, hw] at hi
    exact hne (congrArg Worker.channel (Option.some.inj hi)).symm

/-- A worker that leaves an empty queue leaves the others in order. -/
theorem Staffed.dismiss {e : Engine} (hs : e.Staffed) {i : Nat} {w : Worker}
    (hw : e.worker? i = some w) (hq : (e.queue w.channel).items = []) :
    (e.dismiss i w.channel).Staffed where
  numbers := List.Nodup.sublist (List.Sublist.map _ List.filter_sublist) hs.numbers
  below := fun v hv => hs.below v (List.mem_of_mem_filter hv)
  channels := List.Nodup.sublist (List.Sublist.map _ List.filter_sublist) hs.channels
  active := by
    intro c
    have hmem : c ∈ (e.dismiss i w.channel).workers.map (·.2.channel) ↔
        c ≠ w.channel ∧ c ∈ e.workers.map (·.2.channel) := by
      simp only [Engine.dismiss, List.mem_map, List.mem_filter, bne_iff_ne]
      constructor
      · rintro ⟨v, ⟨hv, hne⟩, rfl⟩
        exact ⟨(hs.number_ne_iff hw hv).mp hne, v, hv, rfl⟩
      · rintro ⟨hne, v, hv, rfl⟩
        exact ⟨v, ⟨hv, (hs.number_ne_iff hw hv).mpr hne⟩, rfl⟩
    rw [hmem, queue_dismiss]
    by_cases hc : c = w.channel
    · simp [hc]
    · rw [if_neg hc, hs.active c]
      simp [hc]
  served := by
    intro c hi
    rw [queue_dismiss] at hi ⊢
    split at hi
    · exact absurd hq hi
    · rename_i hc
      rw [if_neg hc]
      exact hs.served c hi

/-- The worker of the channel has left, and the workers of the other channels are there. -/
theorem workerOf?_dismiss {e : Engine} (hs : e.Staffed) {i : Nat} {w : Worker}
    (hw : e.worker? i = some w) (c : String) :
    (e.dismiss i w.channel).workerOf? c = if c = w.channel then none else e.workerOf? c := by
  by_cases hc : c = w.channel
  · rw [if_pos hc, workerOf?_eq_none_iff]
    intro hmem
    obtain ⟨v, hv, he⟩ := List.mem_map.mp hmem
    have hne : v.1 ≠ i := by simpa using List.of_mem_filter hv
    exact (hs.number_ne_iff hw (List.mem_of_mem_filter hv)).mp hne (he.trans hc)
  · rw [if_neg hc]
    simp only [workerOf?, Engine.dismiss, List.find?_filter]
    apply List.find?_congr
    intro v hv
    by_cases he : v.2.channel = c
    · have hne := (hs.number_ne_iff hw hv).mpr (fun h => hc (he.symm.trans h))
      simp [he, hne]
    · simp [he]

/-- Everybody else is still there. -/
theorem worker?_dismiss_of_ne (e : Engine) {i j : Nat} (h : j ≠ i) (c : String) :
    (e.dismiss i c).worker? j = e.worker? j := by
  simp only [worker?, dismiss, List.find?_filter]
  apply congrArg (fun v => Option.map (fun w : Nat × Worker => w.2) v)
  apply List.find?_congr
  intro v _
  by_cases hv : v.1 = j
  · simp [hv, h]
  · simp [hv]

/-! ## Taking a unit of work -/

/-- The engine when what is left in the queue of a channel is this. -/
def dequeue (e : Engine) (c : String) (rest : List Work) : Engine :=
  { e with queues := e.queues.set c { e.queue c with items := rest } }

/-- Where its queue is not empty, a worker takes the first unit of work and begins it. -/
theorem takeNext_of_cons {e : Engine} {c : String} {work : Work} {rest : List Work}
    (h : (e.queue c).items = work :: rest) (i : Nat) :
    e.takeNext i c =
      (e.dequeue c rest, .silent (.busy (.begin e.config.engine e.systemPrompt work))) := by
  simp only [takeNext]
  split
  · rename_i hnil
    rw [h] at hnil
    exact absurd hnil (List.cons_ne_nil _ _)
  · rename_i hcons
    rw [h] at hcons
    cases hcons
    rfl

/-- What is taken off a queue leaves the other queues as they are. -/
theorem queue_dequeue (e : Engine) (c : String) (rest : List Work) (c' : String) :
    (e.dequeue c rest).queue c' =
      if c' = c then { e.queue c with items := rest } else e.queue c' :=
  queue_of_set rfl c'

/-- A unit of work that is taken leaves the workers in order. -/
theorem Staffed.dequeue {e : Engine} (hs : e.Staffed) {c : String} {work : Work}
    {rest : List Work} (hq : (e.queue c).items = work :: rest) : (e.dequeue c rest).Staffed where
  numbers := hs.numbers
  below := hs.below
  channels := hs.channels
  active := by
    intro c'
    rw [queue_dequeue]
    split
    · rename_i hc
      subst hc
      exact hs.active c'
    · exact hs.active c'
  served := by
    intro c' hi
    rw [queue_dequeue] at hi ⊢
    split at hi
    · rename_i hc
      rw [if_pos hc]
      exact hs.served c (by simp [hq])
    · rename_i hc
      rw [if_neg hc]
      exact hs.served c' hi

/-! ## Steps -/

/-- Answering a unit of work changes the sessions at most. -/
theorem serve_engine {σ ρ : Type} (e : Engine) (c : String) (step : Step Work.service σ ρ) :
    ∃ sessions, (e.serve c step).1 = { e with sessions } := by
  cases step with
  | finished r => exact ⟨e.sessions, rfl⟩
  | silent next => exact ⟨e.sessions, rfl⟩
  | say line next => exact ⟨e.sessions, rfl⟩
  | ask q next =>
    cases q with
    | outside q => exact ⟨e.sessions, rfl⟩
    | «recall» => exact ⟨e.sessions, rfl⟩
    | report id =>
      simp only [serve]
      split
      · exact ⟨e.sessions, rfl⟩
      · exact ⟨_, rfl⟩

/-- What a worker does next keeps the workers and the queues together, and changes no other
worker; the worker itself stays unless it has finished. -/
theorem Staffed.step {e : Engine} (hs : e.Staffed) {i : Nat} {w : Worker}
    (hw : e.worker? i = some w) :
    (e.step i).1.Staffed ∧ (∀ j, j ≠ i → (e.step i).1.worker? j = e.worker? j) ∧
      ((e.step i).2 ≠ .finished () → (e.step i).1.worker? i = some w) := by
  cases hp : w.phase with
  | free =>
    have ha : e.step i = e.takeNext i w.channel := by simp only [Engine.step, hw, hp]
    rw [ha]
    cases hi : (e.queue w.channel).items with
    | nil =>
      rw [takeNext_of_nil hi]
      exact ⟨hs.dismiss hw hi, fun j hj => worker?_dismiss_of_ne e hj _,
        fun hne => absurd rfl hne⟩
    | cons work rest =>
      rw [takeNext_of_cons hi]
      exact ⟨hs.dequeue hi, fun _ _ => rfl, fun _ => hw⟩
  | busy job =>
    obtain ⟨sessions, he⟩ := serve_engine e w.channel job.step
    have ha : (e.step i).1 = { e with sessions } := by
      simp only [Engine.step, hw, hp]
      exact he
    rw [ha]
    exact ⟨hs.withSessions _, fun _ _ => rfl, fun _ => hw⟩
  | apologising rest =>
    have ha : (e.step i).1 = e := by simp only [Engine.step, hw, hp]
    rw [ha]
    exact ⟨hs, fun _ _ => rfl, fun _ => hw⟩

/-- A worker that has finished is gone. -/
theorem worker?_of_finished {e : Engine} {i : Nat} (h : (e.step i).2 = .finished ()) :
    (e.step i).1.worker? i = none := by
  cases hw : e.worker? i with
  | none =>
    simp only [step, hw]
  | some w =>
    cases hp : w.phase with
    | free =>
      have ha : e.step i = e.takeNext i w.channel := by simp only [Engine.step, hw, hp]
      rw [ha] at h ⊢
      cases hi : (e.queue w.channel).items with
      | nil =>
        rw [takeNext_of_nil hi]
        simp [worker?, dismiss]
      | cons work rest =>
        rw [takeNext_of_cons hi] at h
        cases h
    | busy job =>
      simp only [step, hw, hp] at h
      exact absurd h (Step.inside_ne_finished _ _ _ _)
    | apologising rest =>
      simp only [step, hw, hp] at h
      exact absurd h (Step.inside_ne_finished _ _ _ _)

/-- No step changes the settings or the system prompt. -/
theorem settings_step (e : Engine) (i : Nat) :
    (e.step i).1.config = e.config ∧ (e.step i).1.systemPrompt = e.systemPrompt := by
  unfold step
  split
  · exact ⟨rfl, rfl⟩
  · rename_i w hw
    split
    · unfold takeNext
      dsimp only
      split <;> exact ⟨rfl, rfl⟩
    · rename_i job hp
      obtain ⟨sessions, he⟩ := serve_engine e w.channel job.step
      dsimp only
      rw [he]
      exact ⟨rfl, rfl⟩
    · exact ⟨rfl, rfl⟩

/-- Queueing a unit of work changes no settings. -/
theorem settings_enqueue (e : Engine) (c : String) (work : Work) :
    (e.enqueue c work).config = e.config ∧
      (e.enqueue c work).systemPrompt = e.systemPrompt := by
  unfold enqueue
  dsimp only
  split <;> exact ⟨rfl, rfl⟩

/-- Changing a phase changes no other worker, and the worker stays. -/
theorem worker?_setPhase_self {e : Engine} {i : Nat} {w : Worker} (hw : e.worker? i = some w)
    (p : Worker.Phase) : (e.setPhase i p).worker? i = some { w with phase := p } := by
  simp only [worker?_setPhase, hw, Option.map_some, if_true]

/-- Changing a phase changes no other worker. -/
theorem worker?_setPhase_of_ne (e : Engine) {i j : Nat} (h : j ≠ i) (p : Worker.Phase) :
    (e.setPhase i p).worker? j = e.worker? j := by
  simp only [worker?_setPhase, h, if_false, Option.map_id']

end Engine

end ChatRelay
