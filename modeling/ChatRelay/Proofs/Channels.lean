import ChatRelay.Proofs.Sessions
import ChatRelay.Proofs.Share

/-!
# Channels do not disturb each other

Workers of different channels run side by side, in whatever order. Since the share of a channel
depends on nothing but what is done in the channel (`Situation.share_run`), two runs that do the
same in every channel lead to the same in every channel, however they go to and fro between them.

A responder that knows what the workers of a channel have done can answer whatever the schedule is
(`Situation.answeredBy_run`). The main statement is `Situation.channels_apart`.
-/

namespace ChatRelay

namespace Situation

variable {s s' : Situation} {c : String} {respond : String → List Deed → Outside.Answer}

/-! ## Responders -/

/-- A move with the answers of a responder. -/
def answering (respond : String → List Deed → Outside.Answer) (s : Situation) : Move → Move
  | .reply i answer =>
    match s.engine.worker? i with
    | some w => .reply i (respond w.channel (s.deedsAt w.channel))
    | none => .reply i answer
  | m => m

/-- Moves with the answers of a responder. -/
def allAnswering (respond : String → List Deed → Outside.Answer) (s : Situation) :
    List Move → List Move
  | [] => []
  | m :: ms =>
    s.answering respond m :: (s.after (s.answering respond m)).allAnswering respond ms

/-- What no worker does is answered by every responder. -/
theorem AnsweredBy.aside (h : s.AnsweredBy respond) {o : Occurrence}
    (hrecord : s'.record = s.record ++ [o]) (ho : o.deed? = none) : s'.AnsweredBy respond := by
  refine ⟨fun c => ?_⟩
  rw [deedsAt_of_nil hrecord (List.filterMap_cons_none ho)]
  exact h.hears c

/-- What a worker does is answered by a responder when all that it hears is. -/
theorem AnsweredBy.later (h : s.AnsweredBy respond) {i : Nat} (deeds : List Deed)
    (hrecord : s'.record = s.record ++ deeds.map (.worked i c))
    (hfrom : Deed.HearsFrom (fun later => respond c (s.deedsAt c ++ later)) deeds) :
    s'.AnsweredBy respond := by
  refine ⟨fun c' => ?_⟩
  have hdeeds : (deeds.map (Occurrence.worked i c)).filterMap Occurrence.deed? =
      deeds.map fun deed => (c, deed) := by
    rw [List.filterMap_map, ← List.filterMap_eq_map]
    rfl
  rw [deedsAt_of_record hrecord, hdeeds, Deed.hearsFrom_append]
  refine ⟨h.hears c', ?_⟩
  by_cases hc : c = c'
  · subst hc
    rw [ownOf_map]
    exact hfrom
  · rw [ownOf_eq_nil fun a ha => ?_]
    · trivial
    · obtain ⟨deed, -, rfl⟩ := List.mem_map.mp ha
      exact hc

/-- What a worker does without an answer is answered by every responder. -/
theorem AnsweredBy.stepped (h : s.AnsweredBy respond) (i : Nat) (w : Worker)
    (x : Engine × Step Outside.service Worker.Phase Unit) :
    (s.stepped i w x).AnsweredBy respond := by
  obtain ⟨e, step⟩ := x
  cases step with
  | finished r => exact h.later [.left] rfl ⟨trivial, trivial⟩
  | silent phase =>
    refine h.later (w.phase.deeds phase) rfl ?_
    cases w.phase <;> cases phase <;> trivial
  | say line phase => exact h.later [.said line] rfl ⟨trivial, trivial⟩
  | ask q next => exact h.later [.asked q] rfl ⟨trivial, trivial⟩

/-- With the answers of a responder, a move is answered by it. -/
theorem AnsweredBy.after (h : s.AnsweredBy respond) (m : Move) :
    (s.after (s.answering respond m)).AnsweredBy respond := by
  cases m with
  | receive item => exact h.aside rfl rfl
  | reset channel answer =>
    simp only [answering, Situation.after]
    split
    · exact h.aside rfl rfl
    · exact h
  | work i =>
    simp only [answering, Situation.after]
    split
    · exact h.stepped i _ _
    · exact h
  | reply i answer =>
    cases hw : s.engine.worker? i with
    | none =>
      simp only [answering, Situation.after, hw]
      exact h
    | some w =>
      cases hq : s.waiting i with
      | none =>
        simp only [answering, Situation.after, hw, hq]
        exact h
      | some q =>
        simp only [answering, Situation.after, hw, hq]
        refine h.later [.heard q.request _] rfl ⟨?_, trivial⟩
        change _ = respond w.channel (s.deedsAt w.channel ++ []) q.request
        rw [List.append_nil]

/-- **Whatever the schedule, every responder can answer it.** -/
theorem answeredBy_run (h : s.AnsweredBy respond) (ms : List Move) :
    (s.run (s.allAnswering respond ms)).AnsweredBy respond := by
  induction ms generalizing s with
  | nil => exact h
  | cons m ms ih => exact ih (h.after m)

/-! ## Sessions -/

/-- The store of a situation, when this was the store at the beginning. -/
def stored (s : Situation) (store : SessionStore) : SessionStore :=
  s.changes.foldl SessionStore.remember store

/-- A session that is not named by a text is never changed. -/
theorem Fit.sessions_wide (h : s.Fit) (ms : List Move) {key : Text.Wide}
    (hkey : ∀ c : String, key ≠ c) :
    (s.run ms).engine.sessions.get? key = s.engine.sessions.get? key := by
  refine (run_induction (P := fun t => t.Fit ∧
    t.engine.sessions.get? key = s.engine.sessions.get? key) ?_ ⟨h, rfl⟩ ms).2
  rintro t m ⟨hfit, hsame⟩
  refine ⟨hfit.after m, Eq.trans ?_ hsame⟩
  cases hfit.tells m with
  | nothing _ _ _ sessions => rw [sessions]
  | set _ _ _ _ sessions => rw [sessions, Table.get?_set_of_ne _ (hkey _)]
  | reset _ _ _ sessions => rw [sessions, Table.get?_erase_of_ne _ (hkey _)]

/-- The store has the sessions of the engine, when the engine has begun with those of the store. -/
theorem stored_sessions (config : Config) (systemPrompt : Option String) (store : SessionStore)
    (ms : List Move) :
    (((start config systemPrompt store.sessions).run ms).stored store).sessions =
      ((start config systemPrompt store.sessions).run ms).engine.sessions := by
  refine (run_induction (P := fun t => t.Fit ∧ (t.stored store).sessions = t.engine.sessions) ?_
    ⟨fit_start config systemPrompt store.sessions, rfl⟩ ms).2
  rintro t m ⟨hfit, hsame⟩
  exact ⟨hfit.after m, (hfit.tells m).store hsame⟩

/-- Nobody is at work in an idle engine. -/
theorem worker_of_isIdle (h : s.engine.isIdle = true) (c : String) :
    (s.shareOf c).worker = none := by
  have hnone : s.engine.workerOf? c = none := by
    rw [Engine.workerOf?, List.isEmpty_iff.mp h]
    rfl
  simp only [shareOf, Desk.share, desk, hnone, Option.map_none]

/-- **Channels do not disturb each other.** Take two runs in which the workers of every channel hear
what depends on nothing but what they have done before, and which do the same in every channel, in
the same order, whatever order they do it in between the channels; one of them may stop earlier than
the other. Then in every channel the workers do the same, and so they ask the same with the same
arguments, as far as both runs go. Where a channel has come equally far in both, it has the same
queue, the same session, and its worker is at the same. When both engines are idle, they have the
same sessions, and so have their stores. -/
theorem channels_apart (config : Config) (systemPrompt : Option String) (store : SessionStore)
    (respond : String → List Deed → Outside.Answer) (ms ms' : List Move)
    (answered : ((start config systemPrompt store.sessions).run ms).AnsweredBy respond)
    (answered' : ((start config systemPrompt store.sessions).run ms').AnsweredBy respond)
    (agree : ∀ c, Beat.Agree (ownOf c ((start config systemPrompt store.sessions).schedule ms))
      (ownOf c ((start config systemPrompt store.sessions).schedule ms'))) :
    let first := start config systemPrompt store.sessions
    let s := first.run ms
    let s' := first.run ms'
    (∀ c, s.deedsAt c <+: s'.deedsAt c ∨ s'.deedsAt c <+: s.deedsAt c) ∧
    (∀ c, ownOf c (first.schedule ms) = ownOf c (first.schedule ms') →
      s.shareOf c = s'.shareOf c) ∧
    (s.engine.isIdle = true → s'.engine.isIdle = true →
      (∀ c, s.deedsAt c = s'.deedsAt c) ∧
      (∀ key, s.engine.sessions.get? key = s'.engine.sessions.get? key) ∧
      ∀ key, (s.stored store).sessions.get? key = (s'.stored store).sessions.get? key) := by
  intro first s s'
  have hfit : first.Fit := fit_start config systemPrompt store.sessions
  have hshare : ∀ c, s.shareOf c = (first.shareOf c).play config systemPrompt c (respond c)
      (ownOf c (first.schedule ms)) := share_run hfit.sound answered
  have hshare' : ∀ c, s'.shareOf c = (first.shareOf c).play config systemPrompt c (respond c)
      (ownOf c (first.schedule ms')) := share_run hfit.sound answered'
  refine ⟨fun c => ?_, fun c hsame => by rw [hshare, hshare', hsame], fun hidle hidle' => ?_⟩
  · have hdeeds : (s.shareOf c).deeds <+: (s'.shareOf c).deeds ∨
        (s'.shareOf c).deeds <+: (s.shareOf c).deeds := by
      rw [hshare, hshare']
      exact Share.deeds_of_agree (agree c)
    exact hdeeds
  · have hequal : ∀ c, s.shareOf c = s'.shareOf c := by
      intro c
      rw [hshare, hshare']
      refine Share.play_of_agree (agree c) ?_ ?_
      · rw [← hshare]
        exact worker_of_isIdle hidle c
      · rw [← hshare']
        exact worker_of_isIdle hidle' c
    have hsessions : ∀ key, s.engine.sessions.get? key = s'.engine.sessions.get? key := by
      intro key
      -- Only the sessions of channels change, and those that are named otherwise stay.
      by_cases hkey : ∃ c : String, key = c
      · obtain ⟨c, rfl⟩ := hkey
        exact congrArg Share.session (hequal c)
      · have hne : ∀ c : String, key ≠ c := fun c h => hkey ⟨c, h⟩
        exact (hfit.sessions_wide ms hne).trans (hfit.sessions_wide ms' hne).symm
    refine ⟨fun c => congrArg Share.deeds (hequal c), hsessions, fun key => ?_⟩
    rw [stored_sessions, stored_sessions]
    exact hsessions key

/-- A responder for which the agent names its session after the channel, and then says nothing
more. -/
def naming (c : String) (deeds : List Deed) : Outside.Answer :=
  reporting (if deeds.any fun | .heard (.agent .next) _ => true | _ => false then none
    else some { kind := .session, session := some c })

/-- A relay with two channels. -/
def twoChannels : Config :=
  { token := "", operator := "42", model := ""
    channels := [{ name := "general" }, { name := "random" }] }

/-- A store without sessions. -/
def emptyStore : SessionStore := ⟨⟨"", [".sessions.json"]⟩, .empty⟩

/-- Something comes in in two channels, and there one worker is at work after the other, or both
are by turns. -/
def pairedMoves (mixed : Bool) : List Move :=
  let come (channel name : String) : Move := .receive (.reaction
    { emoji := "x", messageId := "1", channelId := channel, channelName := name, userId := "42" })
  let go (workers : List Nat) : List Move :=
    workers.flatMap fun i => [.work i, .reply i (reporting none)]
  (start twoChannels none emptyStore.sessions).allAnswering naming
    (if mixed then
      [come "200" "random", come "100" "general"] ++ (List.replicate 14 (go [2, 1])).flatten
    else
      [come "100" "general", come "200" "random"] ++
        (List.replicate 14 (go [1])).flatten ++ (List.replicate 14 (go [2])).flatten)

/-- What stands after these moves. -/
def pairedRun (mixed : Bool) : Situation :=
  (start twoChannels none emptyStore.sessions).run (pairedMoves mixed)

/-- Where two situations have begun, nobody has done anything. -/
theorem answeredBy_start (config : Config) (systemPrompt : Option String)
    (sessions : SessionTable) : (start config systemPrompt sessions).AnsweredBy respond :=
  ⟨fun _ => trivial⟩

/-- Both runs end in the same way, with a session in both channels. -/
theorem channels_apart_in_pairedRun :
    (pairedRun false).deedsAt "100" = (pairedRun true).deedsAt "100" ∧
      (pairedRun true).engine.sessions.get? ("100" : String) = some ("100" : String) ∧
      ∀ key, (pairedRun false).engine.sessions.get? key =
        (pairedRun true).engine.sessions.get? key := by
  have hanswered : ∀ mixed,
      ((start twoChannels none emptyStore.sessions).run (pairedMoves mixed)).AnsweredBy naming :=
    fun mixed => answeredBy_run (answeredBy_start _ _ _) _
  have hother : ∀ mixed, ∀ c ∉ ["100", "200"],
      ownOf c ((start twoChannels none emptyStore.sessions).schedule (pairedMoves mixed)) = [] := by
    intro mixed c hc
    have hall : ((start twoChannels none emptyStore.sessions).schedule (pairedMoves mixed)).all
        (fun a => a.1 ∈ ["100", "200"]) = true := by cases mixed <;> decide +kernel
    refine ownOf_eq_nil fun a ha h => hc ?_
    rw [← h]
    simpa using List.all_eq_true.mp hall a ha
  have hagree : ∀ c, Beat.Agree
      (ownOf c ((start twoChannels none emptyStore.sessions).schedule (pairedMoves false)))
      (ownOf c ((start twoChannels none emptyStore.sessions).schedule (pairedMoves true))) := by
    intro c
    refine ⟨0, 0, congrArg (· ++ []) ?_⟩
    by_cases hc : c ∈ ["100", "200"]
    · rcases List.mem_pair.mp hc with rfl | rfl <;> rfl
    · rw [hother false c hc, hother true c hc]
  obtain ⟨-, -, hidle⟩ := channels_apart twoChannels none emptyStore naming (pairedMoves false)
    (pairedMoves true) (hanswered false) (hanswered true) hagree
  obtain ⟨hdeeds, hsessions, -⟩ := hidle (by decide +kernel) (by decide +kernel)
  unfold pairedRun
  exact ⟨hdeeds "100", by decide +kernel, hsessions⟩

end Situation

end ChatRelay
