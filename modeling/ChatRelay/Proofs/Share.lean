import ChatRelay.Proofs.Desk.Projection

/-!
# The share of a channel

The schedule of a run says what it does in which channel: something comes in, a channel is reset, a
worker does a step or gets an answer. What one channel has of a situation is its `Share`: its queue,
its session, what its worker is at, and what its workers have done, all without the numbers of the
workers, which depend on what goes on elsewhere.

When the answers that the workers of a channel get depend on nothing but what they have done before
(`Situation.AnsweredBy`), the share of a channel after a run is what the beats of the channel make
of it, one after the other, whatever happens in between (`Situation.share_run`).
-/

namespace ChatRelay

/-! ## What belongs to a channel -/

/-- What belongs to a channel, of things that come with their channels. -/
def ownOf {α : Type} (c : String) (l : List (String × α)) : List α :=
  l.filterMap fun a => if a.1 = c then some a.2 else none

section Own

variable {α : Type} {c : String} {l : List (String × α)}

/-- What belongs to a channel of two lists is there one after the other. -/
theorem ownOf_append (c : String) (l m : List (String × α)) :
    ownOf c (l ++ m) = ownOf c l ++ ownOf c m :=
  List.filterMap_append

/-- A thing belongs to the channel that it comes with. -/
theorem ownOf_singleton (c c' : String) (a : α) :
    ownOf c' [(c, a)] = if c = c' then [a] else [] := by
  rw [ownOf]
  split <;> rename_i hc <;> simp [hc]

/-- Where everything belongs to a channel, it is all there is. -/
theorem ownOf_map (c : String) (l : List α) : ownOf c (l.map fun a => (c, a)) = l := by
  rw [ownOf, List.filterMap_map]
  exact (List.filterMap_congr fun a _ => if_pos rfl).trans List.filterMap_some

/-- Where nothing belongs to a channel, there is nothing. -/
theorem ownOf_eq_nil (h : ∀ a ∈ l, a.1 ≠ c) : ownOf c l = [] :=
  List.filterMap_eq_nil_iff.mpr fun a ha => if_neg (h a ha)

end Own

/-- The deed that an occurrence is, with the channel of the worker. -/
def Occurrence.deed? : Occurrence → Option (String × Deed)
  | .worked _ channel deed => some (channel, deed)
  | _ => none

/-- What workers do is all deeds. -/
theorem Occurrence.isSome_deed? {i : Nat} {c : String} {deeds : List Deed} :
    ∀ o ∈ deeds.map (.worked i c), (deed? o).isSome = true := by
  intro o ho
  obtain ⟨deed, -, rfl⟩ := List.mem_map.mp ho
  rfl

/-- What is done in a channel, or happens to it. -/
inductive Beat where
  /-- An event comes in. -/
  | receive (item : Incoming)
  /-- The channel is to be reset. -/
  | reset
  /-- The worker does its next step, or gets the answer that it waits for. -/
  | step

/-- Two schedules of a channel agree when they are the same, but that one of them may stop earlier
than the other in the steps of the worker at the end. -/
def Beat.Agree (bs bs' : List Beat) : Prop :=
  ∃ k l, bs ++ List.replicate k .step = bs' ++ List.replicate l .step

/-- Whether a deed hears what is answered, if it hears anything. -/
def Deed.IsFrom (answer : Outside.Answer) : Deed → Prop
  | .heard q reply => reply = answer q
  | _ => True

/-- All that is heard in the course of deeds is what a responder answers, which knows the deeds
before. -/
def Deed.HearsFrom (respond : List Deed → Outside.Answer) : List Deed → Prop
  | [] => True
  | deed :: rest => deed.IsFrom (respond []) ∧ HearsFrom (fun deeds => respond (deed :: deeds)) rest

/-- Deeds hear a responder where the first of them do, and the others do after them. -/
theorem Deed.hearsFrom_append {respond : List Deed → Outside.Answer} {first second : List Deed} :
    HearsFrom respond (first ++ second) ↔
      HearsFrom respond first ∧ HearsFrom (fun deeds => respond (first ++ deeds)) second := by
  induction first generalizing respond with
  | nil => exact iff_of_eq (true_and _).symm
  | cons deed rest ih =>
    rw [List.cons_append, HearsFrom, HearsFrom, ih, and_assoc]
    rfl

namespace Situation

/-- What the workers have done, with their channels. -/
def deeds (s : Situation) : List (String × Deed) := s.record.filterMap Occurrence.deed?

/-- What the workers of a channel have done. -/
def deedsAt (s : Situation) (c : String) : List Deed := ownOf c s.deeds

/-- The workers of every channel have heard what a responder answers that knows what the workers of
this channel have done before. -/
structure AnsweredBy (respond : String → List Deed → Outside.Answer) (s : Situation) : Prop where
  hears : ∀ c, Deed.HearsFrom (respond c) (s.deedsAt c)

/-- What a move does in which channel, if it is possible. -/
def beat? (s : Situation) : Move → Option (String × Beat)
  | .receive item => some (item.channelId, .receive item)
  | .reset channel _ => some (channel, .reset)
  | .work i =>
    match s.engine.worker? i, s.waiting i with
    | some w, none => some (w.channel, .step)
    | _, _ => none
  | .reply i _ =>
    match s.engine.worker? i, s.waiting i with
    | some w, some _ => some (w.channel, .step)
    | _, _ => none

/-- The schedule of a run: what its moves do in which channels. -/
def schedule (s : Situation) : List Move → List (String × Beat)
  | [] => []
  | m :: ms => (s.beat? m).toList ++ (s.after m).schedule ms

end Situation

/-! ## The share of a channel -/

/-- What a channel has of a situation. The worker comes with its phase and the request that it waits
for. -/
structure Share where
  queue : Queue := {}
  session : Option Text.Wide := none
  worker : Option (Worker.Phase × Option Question) := none
  /-- What its workers have done. -/
  deeds : List Deed := []

namespace Share

/-- Whether nobody is in the middle of a unit of work. -/
def atRest (v : Share) : Bool :=
  match v.worker with
  | none => true
  | some (phase, question) => question.isSome || !phase.isBusy

/-- The share when the worker goes on to a phase and a question and does this. -/
def goOn (v : Share) (phase : Worker.Phase) (question : Option Question) (deeds : List Deed) :
    Share :=
  { v with worker := some (phase, question), deeds := v.deeds ++ deeds }

/-- The share when a free worker takes the next unit of work, or leaves. -/
def takeNext (config : Config) (systemPrompt : Option String) (v : Share) : Share :=
  match v.queue.items with
  | [] => { v with queue := ⟨[], false⟩, worker := none, deeds := v.deeds ++ [.left] }
  | work :: rest =>
    { v with queue := ⟨rest, v.queue.active⟩ }.goOn
      (.busy (.begin config.engine systemPrompt work)) none [.took work]

/-- The share when the worker does the next step of its unit of work. -/
def work (c : String) (v : Share) (job : Job) : Share :=
  match job.step with
  | .finished outcome =>
    v.goOn (Engine.concluded c job.work.profile outcome) none [.ended !outcome.isOk]
  | .silent next => v.goOn (.busy next) none []
  | .say line next => v.goOn (.busy next) none [.said line]
  | .ask .recall next => v.goOn (.busy (next (.ok (v.session.map Text.Wide.text)))) none []
  | .ask (.report id) next =>
    if v.session = some (id : Text.Wide) then v.goOn (.busy (next (.ok ()))) none []
    else
      { v with session := some (id : Text.Wide) }.goOn (.busy job)
        (some ⟨.store (.set c id), fun r => .busy (next r)⟩) [.asked (.store (.set c id))]
  | .ask (.outside q) next =>
    v.goOn (.busy job) (some ⟨q, fun r => .busy (next r)⟩) [.asked q]

/-- The share when the worker goes on with an apology. -/
def apologise (v : Share) : Dialogue Outside.service Unit → Share
  | .done () => v.goOn .free none []
  | .say line rest => v.goOn (.apologising rest) none [.said line]
  | .ask q next =>
    v.goOn (.apologising (.ask q next)) (some ⟨q, fun r => .apologising (next r)⟩) [.asked q]

variable (config : Config) (systemPrompt : Option String) (c : String)
  (respond : List Deed → Outside.Answer)

/-- The share after the next step of the worker, or the answer that it waits for. -/
def step (v : Share) : Share :=
  match v.worker with
  | none => v
  | some (_, some q) =>
    let reply := respond v.deeds q.request
    v.goOn (q.next reply) none [.heard q.request reply]
  | some (.free, none) => v.takeNext config systemPrompt
  | some (.busy job, none) => v.work c job
  | some (.apologising rest, none) => v.apologise rest

/-- The share of a channel after a beat. -/
def after (v : Share) : Beat → Share
  | .receive item =>
    match ({ config } : Engine).admit? item with
    | none => v
    | some profile =>
      { v with
        queue := ⟨v.queue.items ++ [⟨item, profile⟩], true⟩
        worker := some (v.worker.getD (.free, none)) }
  | .reset => if v.atRest then { v with session := none } else v
  | .step => v.step config systemPrompt c respond

/-- The share of a channel after beats. -/
def play (v : Share) (bs : List Beat) : Share := bs.foldl (after config systemPrompt c respond) v

variable {config systemPrompt c respond} {v : Share}

/-- More beats go on with the share that the beats before them have left. -/
theorem play_append (v : Share) (bs bs' : List Beat) :
    v.play config systemPrompt c respond (bs ++ bs') =
      (v.play config systemPrompt c respond bs).play config systemPrompt c respond bs' :=
  List.foldl_append

/-- No beat undoes what was done. -/
theorem deeds_after (v : Share) (b : Beat) :
    v.deeds <+: (v.after config systemPrompt c respond b).deeds := by
  cases b with
  | receive item =>
    rw [after]
    split <;> exact List.prefix_rfl
  | reset =>
    rw [after]
    split <;> exact List.prefix_rfl
  | step =>
    rw [after, step]
    split
    · exact List.prefix_rfl
    · exact List.prefix_append _ _
    · rw [takeNext]
      split <;> exact List.prefix_append _ _
    · rw [work]
      split <;> first | exact List.prefix_append _ _ | (split <;> exact List.prefix_append _ _)
    · rename_i rest _
      cases rest <;> exact List.prefix_append _ _

/-- What is done later comes after what was done before. -/
theorem deeds_play_append (v : Share) (bs bs' : List Beat) :
    (v.play config systemPrompt c respond bs).deeds <+:
      (v.play config systemPrompt c respond (bs ++ bs')).deeds := by
  rw [play_append]
  induction bs' generalizing bs with
  | nil => exact List.prefix_rfl
  | cons b bs' ih =>
    have hrest := ih (bs ++ [b])
    rw [play_append] at hrest
    exact (deeds_after _ b).trans hrest

/-- Where nobody is, no steps are made. -/
theorem play_replicate (h : v.worker = none) (k : Nat) :
    v.play config systemPrompt c respond (.replicate k .step) = v := by
  have hstep : v.after config systemPrompt c respond .step = v := by
    simp only [after, step, h]
  induction k with
  | zero => rfl
  | succ k ih => exact (congrArg (play config systemPrompt c respond · _) hstep).trans ih

section Agree

variable {bs bs' : List Beat}

/-- As far as two schedules of a channel go that agree, the same is done. -/
theorem deeds_of_agree (h : Beat.Agree bs bs') :
    let deeds := (v.play config systemPrompt c respond bs).deeds
    let deeds' := (v.play config systemPrompt c respond bs').deeds
    deeds <+: deeds' ∨ deeds' <+: deeds := by
  intro deeds deeds'
  obtain ⟨k, l, hsame⟩ := h
  have hfirst : deeds <+: (v.play config systemPrompt c respond (bs ++ .replicate k .step)).deeds :=
    deeds_play_append v bs _
  rw [hsame] at hfirst
  exact List.prefix_or_prefix_of_prefix hfirst (deeds_play_append v bs' _)

/-- Where two schedules of a channel agree and the worker has left, they lead to the same. -/
theorem play_of_agree (h : Beat.Agree bs bs')
    (hleft : (v.play config systemPrompt c respond bs).worker = none)
    (hleft' : (v.play config systemPrompt c respond bs').worker = none) :
    v.play config systemPrompt c respond bs = v.play config systemPrompt c respond bs' := by
  obtain ⟨k, l, hsame⟩ := h
  rw [← play_replicate hleft k, ← play_append, hsame, play_append, play_replicate hleft' l]

end Agree

end Share

/-- The share that a desk is, with what was done there. -/
def Desk.share (d : Desk) (deeds : List Deed) : Share :=
  { queue := d.queue, session := d.session, worker := d.worker.map (·.2), deeds }

/-- The share of a channel. -/
def Situation.shareOf (s : Situation) (c : String) : Share := (s.desk c).share (s.deedsAt c)

namespace Desk

variable {config : Config} {systemPrompt : Option String} {c : String} {d d' : Desk}
  {os : List Occurrence}

/-- A share is at rest where its desk is. -/
theorem atRest_share (d : Desk) (deeds : List Deed) : (d.share deeds).atRest = d.atRest := by
  obtain ⟨queue, session, worker⟩ := d
  cases worker <;> rfl

/-- What a worker does at a desk is the step that the share takes. -/
theorem Next.share_step (h : Next config systemPrompt c d os d') {deeds : List Deed}
    {respond : List Deed → Outside.Answer} (hworked : ∀ o ∈ os, o.deed?.isSome = true)
    (hheard : ∀ deed ∈ ownOf c (os.filterMap Occurrence.deed?), deed.IsFrom (respond deeds)) :
    d'.share (deeds ++ ownOf c (os.filterMap Occurrence.deed?)) =
      (d.share deeds).step config systemPrompt c respond := by
  cases h with
  | queued | called | reset => cases hworked _ List.mem_cons_self
  | left => simp [share, Share.step, Share.takeNext, ownOf, Occurrence.deed?]
  | took => simp [share, Share.step, Share.takeNext, Share.goOn, ownOf, Occurrence.deed?]
  | silent step | said step | recalled step | known step | asked step | finished step =>
    simp [share, Share.step, Share.work, Share.goOn, ownOf, Occurrence.deed?, step]
  | reported step other =>
    simp [share, Share.step, Share.work, Share.goOn, ownOf, Occurrence.deed?, step, other]
  | sighed | pleaded | settled =>
    simp [share, Share.step, Share.apologise, Share.goOn, ownOf, Occurrence.deed?]
  | heard answer =>
    rename_i question
    have hreply : answer question.request = respond deeds question.request :=
      hheard (.heard question.request (answer question.request)) (by simp [ownOf, Occurrence.deed?])
    simp [share, Share.step, Share.goOn, ownOf, Occurrence.deed?, hreply]

/-- An event that is admitted at a desk is the beat that the share takes. -/
theorem Next.share_receive {item : Incoming} {notes : List String} {profile : ChannelProfile}
    (h : Next config systemPrompt c d [.received item true notes] d')
    (ha : ({ config } : Engine).admit? item = some profile) (deeds : List Deed)
    (respond : List Deed → Outside.Answer) :
    d'.share deeds = (d.share deeds).after config systemPrompt c respond (.receive item) := by
  have hprofile := (Situation.admitted_of_admit? ha).2.2
  cases h with
  | queued admitted | called _ admitted =>
    cases Option.some.inj (admitted.2.2.symm.trans hprofile)
    simp [share, Share.after, ha]

/-- A reset at a desk is the beat that the share takes. -/
theorem Next.share_reset {events : List (Dialogue.Event Outside.service)}
    (h : Next config systemPrompt c d [.reset c events] d') (deeds : List Deed)
    (respond : List Deed → Outside.Answer) :
    d'.share deeds = (d.share deeds).after config systemPrompt c respond .reset := by
  cases h with
  | reset _ _ rest =>
    rw [Share.after, atRest_share, if_pos rest]
    rfl

end Desk

namespace Situation

variable {s s' : Situation} {c : String} {os : List Occurrence}
  {respond : String → List Deed → Outside.Answer}

/-! ## Moves -/

/-- A channel is at rest exactly where its desk is. -/
theorem atRest_eq_desk (hs : s.Sound) (c : String) : s.atRest c = (s.desk c).atRest := by
  rw [Bool.eq_iff_iff]
  refine ⟨atRest_desk, fun h => List.all_eq_true.mpr fun w hw => ?_⟩
  by_cases hc : w.2.channel = c
  · have ho := Engine.workerOf?_of_mem hs.staffed hw
    rw [hc] at ho
    simp only [desk, ho, Option.map_some, Desk.atRest] at h
    simpa [hc] using h
  · simp [hc]

/-- What is recorded next adds its deeds in the channel at the end. -/
theorem deedsAt_of_record (h : s'.record = s.record ++ os) (c : String) :
    s'.deedsAt c = s.deedsAt c ++ ownOf c (os.filterMap Occurrence.deed?) := by
  rw [deedsAt, deeds, h, List.filterMap_append, ownOf_append]
  rfl

/-- Where no worker does anything, the deeds are what they were. -/
theorem deedsAt_of_nil (h : s'.record = s.record ++ os) (hnil : os.filterMap Occurrence.deed? = [])
    (c : String) : s'.deedsAt c = s.deedsAt c := by
  rw [deedsAt_of_record h, hnil]
  exact List.append_nil _

/-- What is answered by a responder was answered by it all the time. -/
theorem AnsweredBy.earlier (h : s'.AnsweredBy respond) (hrecord : s'.record = s.record ++ os) :
    s.AnsweredBy respond := by
  refine ⟨fun c => ?_⟩
  have hc := h.hears c
  rw [deedsAt_of_record hrecord] at hc
  exact (Deed.hearsFrom_append.mp hc).1

/-- What is answered by a responder in a whole run was answered by it at the start. -/
theorem AnsweredBy.of_run {ms : List Move} (h : (s.run ms).AnsweredBy respond) :
    s.AnsweredBy respond := by
  obtain ⟨os, hos⟩ := run_record s ms
  exact h.earlier (congrArg record (hos s.record))

/-- What is recorded last was answered by the responder too. -/
theorem AnsweredBy.heard (h : s'.AnsweredBy respond) (hrecord : s'.record = s.record ++ os)
    (hone : os.length ≤ 1) :
    ∀ deed ∈ ownOf c (os.filterMap Occurrence.deed?), deed.IsFrom (respond c (s.deedsAt c)) := by
  have hlength : (ownOf c (os.filterMap Occurrence.deed?)).length ≤ 1 :=
    ((List.length_filterMap_le _ _).trans (List.length_filterMap_le _ _)).trans hone
  have hlast := h.hears c
  rw [deedsAt_of_record hrecord, Deed.hearsFrom_append] at hlast
  generalize ownOf c (os.filterMap Occurrence.deed?) = deeds at hlength hlast
  -- One occurrence is one deed of the channel, or none.
  match deeds with
  | [] => exact fun deed hdeed => absurd hdeed List.not_mem_nil
  | [deed] =>
    have hfrom : deed.IsFrom (respond c (s.deedsAt c ++ [])) := hlast.2.1
    rw [List.append_nil] at hfrom
    exact List.forall_mem_singleton.mpr hfrom
  | _ :: _ :: _ => exact absurd hlength (by simp)

namespace Moved

/-- A step at the desk of a channel leaves the share of every other channel as it was. -/
theorem share_others (h : Moved s s' c os) {c' : String} (hc : c' ≠ c) :
    s'.shareOf c' = s.shareOf c' := by
  have hnil : ownOf c' (os.filterMap Occurrence.deed?) = [] := by
    refine ownOf_eq_nil fun a ha => ?_
    obtain ⟨o, ho, hdeed⟩ := List.mem_filterMap.mp ha
    have hconcerns := h.next.concerns ho c'
    cases o with
    | worked i channel deed =>
      cases hdeed
      rw [beq_eq_false_iff_ne.mpr (Ne.symm hc)] at hconcerns
      exact beq_eq_false_iff_ne.mp hconcerns
    | received | reset => cases hdeed
  rw [shareOf, h.others c' hc, deedsAt_of_record h.record, hnil, List.append_nil]
  rfl

/-- What one beat makes of the share of its channel, it makes of all shares. -/
theorem share_play (h : Moved s s' c os) {b : Beat} {config : Config} {systemPrompt : Option String}
    (hown : s'.shareOf c = (s.shareOf c).after config systemPrompt c (respond c) b) (c' : String) :
    s'.shareOf c' =
      (s.shareOf c').play config systemPrompt c' (respond c') (ownOf c' [(c, b)]) := by
  rw [ownOf_singleton]
  split
  · rename_i hc
    subst hc
    exact hown
  · rename_i hc
    exact h.share_others (Ne.symm hc)

/-- What a worker does is a step of the share of its channel. -/
theorem share_step (h : Moved s s' c os) (hanswered : s'.AnsweredBy respond)
    (hworked : ∀ o ∈ os, o.deed?.isSome = true) :
    s'.shareOf c =
      (s.shareOf c).after s.engine.config s.engine.systemPrompt c (respond c) .step := by
  rw [shareOf, deedsAt_of_record h.record]
  exact h.next.share_step hworked (hanswered.heard h.record h.next.length_le_one)

end Moved

/-- Who is not admitted leaves all shares as they were. -/
theorem share_of_not_admitted {item : Incoming} (ha : s.engine.admit? item = none) (c : String) :
    (s.after (.receive item)).shareOf c = s.shareOf c := by
  rw [after_receive_of_not_admitted ha, shareOf, deedsAt_of_nil rfl rfl]
  rfl

/-- What leaves the share of its channel as it was leaves all shares as they were. -/
theorem share_idle {b : Beat} {config : Config} {systemPrompt : Option String}
    (hown : (s.shareOf c).after config systemPrompt c (respond c) b = s.shareOf c) (c' : String) :
    (s.shareOf c').play config systemPrompt c' (respond c') (ownOf c' [(c, b)]) = s.shareOf c' := by
  rw [ownOf_singleton]
  split
  · rename_i hc
    subst hc
    exact hown
  · rfl

section Moves

variable (hs : s.Sound) (c : String)

include hs

/-- An event that comes in is a beat of its channel. -/
theorem share_receive (item : Incoming) :
    (s.after (.receive item)).shareOf c = (s.shareOf c).play s.engine.config
      s.engine.systemPrompt c (respond c) (ownOf c [(item.channelId, .receive item)]) := by
  cases ha : s.engine.admit? item with
  | none =>
    have hnone : ({ config := s.engine.config } : Engine).admit? item = none := ha
    rw [share_of_not_admitted ha]
    refine (share_idle ?_ c).symm
    simp only [Share.after, hnone]
  | some profile =>
    obtain ⟨os, hm⟩ := moved_receive hs ha
    have hrecord := hm.record
    rw [after_receive_of_admitted ha] at hrecord
    cases List.append_cancel_left hrecord
    refine hm.share_play ?_ c
    rw [shareOf, deedsAt_of_nil hm.record rfl]
    exact hm.next.share_receive ha _ _

/-- A reset is a beat of its channel, and where it is not possible it changes nothing. -/
theorem share_reset (channel : String) (answer : Outside.Answer) :
    (s.after (.reset channel answer)).shareOf c = (s.shareOf c).play s.engine.config
      s.engine.systemPrompt c (respond c) (ownOf c [(channel, .reset)]) := by
  by_cases hr : s.atRest channel = true
  · obtain ⟨os, hm⟩ := moved_reset hr answer
    have hrecord := hm.record
    simp only [after, hr, if_true] at hrecord
    cases List.append_cancel_left hrecord
    refine hm.share_play ?_ c
    rw [shareOf, deedsAt_of_nil hm.record rfl]
    exact hm.next.share_reset _ _
  · have hsame : s.after (.reset channel answer) = s := by
      simp only [after, hr]
      rfl
    rw [hsame]
    refine (share_idle ?_ c).symm
    rw [Share.after, shareOf, Desk.atRest_share, ← atRest_eq_desk hs, if_neg hr]

variable {i : Nat} {w : Worker} (hw : s.engine.worker? i = some w)

include hw

/-- What a worker does next is a beat of its channel. -/
theorem share_work (hq : s.waiting i = none) (h : (s.after (.work i)).AnsweredBy respond) :
    (s.after (.work i)).shareOf c = (s.shareOf c).play s.engine.config
      s.engine.systemPrompt c (respond c) (ownOf c [(w.channel, .step)]) := by
  obtain ⟨os, hm⟩ := moved_work hs.staffed hw hq
  obtain ⟨deeds, hdeeds⟩ := s.stepped_record i w (s.engine.step i)
  have hos : os = deeds.map (.worked i w.channel) := by
    have hrecord := hm.record
    simp only [after, hw, hq, hdeeds] at hrecord
    exact (List.append_cancel_left hrecord).symm
  exact hm.share_play (hm.share_step h (hos ▸ Occurrence.isSome_deed?)) c

/-- The answer that a worker gets is a beat of its channel. -/
theorem share_reply {q : Question} (hq : s.waiting i = some q) (answer : Outside.Answer)
    (h : (s.after (.reply i answer)).AnsweredBy respond) :
    (s.after (.reply i answer)).shareOf c = (s.shareOf c).play s.engine.config
      s.engine.systemPrompt c (respond c) (ownOf c [(w.channel, .step)]) := by
  obtain ⟨os, hm⟩ := moved_reply hs.staffed hw hq answer
  have hos : os = [Deed.heard q.request (answer q.request)].map (.worked i w.channel) := by
    have hrecord := hm.record
    simp only [after, hw, hq] at hrecord
    exact (List.append_cancel_left hrecord).symm
  exact hm.share_play (hm.share_step h (hos ▸ Occurrence.isSome_deed?)) c

end Moves

/-- **A move, seen from one channel**, is the beat that it is there, if it is one. -/
theorem share_after (hs : s.Sound) {m : Move} (h : (s.after m).AnsweredBy respond) (c : String) :
    (s.after m).shareOf c = (s.shareOf c).play s.engine.config s.engine.systemPrompt c (respond c)
      (ownOf c (s.beat? m).toList) := by
  cases m with
  | receive item => exact share_receive hs c item
  | reset channel answer => exact share_reset hs c channel answer
  | work i =>
    cases hw : s.engine.worker? i with
    | none => simp only [after, beat?, hw]; rfl
    | some w =>
      cases hq : s.waiting i with
      | some q => simp only [after, beat?, hw, hq]; rfl
      | none =>
        simp only [beat?, hw, hq]
        exact share_work hs c hw hq h
  | reply i answer =>
    cases hw : s.engine.worker? i with
    | none => simp only [after, beat?, hw]; rfl
    | some w =>
      cases hq : s.waiting i with
      | none => simp only [after, beat?, hw, hq]; rfl
      | some q =>
        simp only [beat?, hw, hq]
        exact share_reply hs c hw hq answer h

/-! ## Runs -/

/-- **A run, seen from one channel**, is what the beats of the channel make of its share, one after
the other. What is done in other channels, and when, makes no difference. -/
theorem share_run (hs : s.Sound) {ms : List Move} (h : (s.run ms).AnsweredBy respond) (c : String) :
    (s.run ms).shareOf c = (s.shareOf c).play s.engine.config s.engine.systemPrompt c (respond c)
      (ownOf c (s.schedule ms)) := by
  induction ms generalizing s with
  | nil => rfl
  | cons m ms ih =>
    obtain ⟨hconfig, hprompt⟩ := settings_after s m
    have hafter : (s.after m).AnsweredBy respond := AnsweredBy.of_run h
    rw [run_cons, ih (hs.after m) h, hconfig, hprompt, share_after hs hafter, schedule,
      ownOf_append, Share.play_append]

end Situation

end ChatRelay
