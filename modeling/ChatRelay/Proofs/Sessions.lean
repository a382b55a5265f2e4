import ChatRelay.Proofs.Resuming
import ChatRelay.SessionStore

/-!
# The engine's sessions and the store's

The store keeps a table of its own, and the engine tells it about every change. `Situation.changes`
is what the store is told in a run: the changes that workers report and those of resets.

The main statement is `Situation.sessions_of_run`: turns resume the last session, the table of the
store is always that of the engine, the store is told of every session that was set to another
value and of no other, and of every reset once.
-/

namespace ChatRelay

/-- The change that the store is told about by what a worker does. -/
def Deed.change? : Deed → Option SessionChange
  | .asked q => q.change?
  | _ => none

/-- What the store is told in an occurrence. -/
def Occurrence.changes : Occurrence → List SessionChange
  | .worked _ _ deed => deed.change?.toList
  | .reset _ events => (events.filterMap Dialogue.Event.request?).filterMap
      Outside.Request.change?
  | _ => []

/-- The channel that is reset. -/
def Occurrence.resets? : Occurrence → Option String
  | .reset channel _ => some channel
  | _ => none

namespace SessionChange

/-- The entry that a change sets. -/
def entry? : SessionChange → Option (Text.Wide × Text.Wide)
  | .set channel session => some (channel, session)
  | .delete _ => none

/-- The channel whose session a change deletes. -/
def deleted? : SessionChange → Option String
  | .set _ _ => none
  | .delete channel => some channel

end SessionChange

namespace SessionTable

/-- The entries of a table that another table does not have: the sessions that were set to another
value between the two. -/
def news (old new : SessionTable) : List (Text.Wide × Text.Wide) :=
  new.entries.filter fun e => decide (old.get? e.1 ≠ some e.2)

/-- Where all entries were there before, nothing is new. -/
theorem news_of_subset {old new : SessionTable} (h : ∀ e ∈ new.entries, e ∈ old.entries) :
    old.news new = [] := by
  refine List.filter_eq_nil_iff.mpr fun e he => ?_
  simp only [old.get?_of_mem (h e he), ne_eq, not_true_eq_false, decide_false,
    Bool.false_eq_true, not_false_eq_true]

/-- Erasing a session sets none. -/
theorem news_erase (t : SessionTable) (channel : Text.Wide) :
    t.news (t.erase channel) = [] :=
  news_of_subset fun _ he => List.mem_of_mem_filter he

/-- A session that is set to another value is new, and nothing else is. -/
theorem news_set {t : SessionTable} {channel session : Text.Wide}
    (h : t.get? channel ≠ some session) :
    t.news (t.set channel session) = [(channel, session)] := by
  refine Entries.filter_set (fun e he => ?_) (decide_eq_true h)
  simp only [t.get?_of_mem he, ne_eq, not_true_eq_false, decide_false]

end SessionTable

namespace Situation

/-- What the store has been told. -/
def changes (s : Situation) : List SessionChange := s.record.flatMap Occurrence.changes

/-- The sessions that the engine sets to another value in the course of moves. -/
def settings (s : Situation) : List Move → List (Text.Wide × Text.Wide)
  | [] => []
  | m :: ms => s.engine.sessions.news (s.after m).engine.sessions ++ settings (s.after m) ms

/-- What one situation tells the store until another one stands. -/
inductive Tells (s s' : Situation) : Prop where
  /-- No session changes, and the store is told nothing. -/
  | nothing {os : List Occurrence} (record : s'.record = s.record ++ os)
      (changes : os.flatMap Occurrence.changes = []) (resets : os.filterMap Occurrence.resets? = [])
      (sessions : s'.engine.sessions = s.engine.sessions)
  /-- The session of a channel is set to another value, and the store is told. -/
  | set {os : List Occurrence} {channel session : String} (record : s'.record = s.record ++ os)
      (changes : os.flatMap Occurrence.changes = [.set channel session])
      (resets : os.filterMap Occurrence.resets? = [])
      (other : s.engine.sessions.get? channel ≠ some (session : Text.Wide))
      (sessions : s'.engine.sessions = s.engine.sessions.set channel session)
  /-- A channel is reset, and the store is told. -/
  | reset {os : List Occurrence} {channel : String} (record : s'.record = s.record ++ os)
      (changes : os.flatMap Occurrence.changes = [.delete channel])
      (resets : os.filterMap Occurrence.resets? = [channel])
      (sessions : s'.engine.sessions = s.engine.sessions.erase channel)

/-- A situation of a run: it is sound, and every desk holds on to what its conversation knows. -/
structure Fit (s : Situation) : Prop where
  sound : s.Sound
  holds : ∀ c, ∃ m, (s.desk c).Holds m

/-- The situation at the start is one of a run. -/
theorem fit_start (config : Config) (systemPrompt : Option String) (sessions : SessionTable) :
    (start config systemPrompt sessions).Fit :=
  ⟨start_sound config systemPrompt sessions, fun _ => ⟨{}, trivial⟩⟩

/-- The situation after a move is one of a run. -/
theorem Fit.after {s : Situation} (h : s.Fit) (m : Move) : (s.after m).Fit := by
  refine ⟨h.sound.after m, fun c => ?_⟩
  obtain ⟨memory, hholds⟩ := h.holds c
  obtain ⟨os, -, hrun⟩ := desk_run h.sound [m] c
  exact ⟨_, hholds.run hrun⟩

/-- What is done on the side tells the store nothing. -/
theorem tells_nothing {s s' : Situation} {i : Nat} {c : String} (deeds : List Deed)
    (hrecord : s'.record = s.record ++ deeds.map (.worked i c))
    (hdeeds : deeds.filterMap Deed.change? = [])
    (hsessions : s'.engine.sessions = s.engine.sessions) : s.Tells s' := by
  refine .nothing hrecord ?_ ?_ hsessions
  · refine List.flatMap_eq_nil_iff.mpr fun o ho => ?_
    obtain ⟨deed, hdeed, rfl⟩ := List.mem_map.mp ho
    rw [Occurrence.changes, List.filterMap_eq_nil_iff.mp hdeeds deed hdeed, Option.toList_none]
  · refine List.filterMap_eq_nil_iff.mpr fun o ho => ?_
    obtain ⟨deed, -, rfl⟩ := List.mem_map.mp ho
    rfl

section Worker

variable {s : Situation} {i : Nat} {w : Worker}

/-- What a worker holds on to that waits for nothing. -/
theorem Fit.phase_holds (h : s.Fit) (hw : s.engine.worker? i = some w) (hq : s.waiting i = none) :
    ∃ m, w.phase.Holds m := by
  obtain ⟨m, hholds⟩ := h.holds w.channel
  rw [desk_of_worker h.sound.staffed hw, hq] at hholds
  exact ⟨m, hholds⟩

/-- The store is told nothing by going from one phase to another. -/
theorem changes_deeds (p p' : Worker.Phase) : (p.deeds p').filterMap Deed.change? = [] := by
  cases p <;> cases p' <;> rfl

/-- A worker that only goes on to another phase tells the store nothing. -/
theorem tells_silent {e : Engine} {p : Worker.Phase} (hsessions : e.sessions = s.engine.sessions) :
    s.Tells (s.stepped i w (e, .silent p)) :=
  tells_nothing (w.phase.deeds p) rfl (changes_deeds _ _) hsessions

/-- A worker that asks something else than a change of the store tells it nothing. -/
theorem tells_ask {q : Outside.Request} {next : Outside.service.Reply q → Worker.Phase}
    (hq : q.change? = none) : s.Tells (s.stepped i w (s.engine, .ask q next)) :=
  tells_nothing [.asked q] rfl (List.filterMap_cons_none hq) rfl

/-- A worker that is doing a unit of work tells the store about the session that it reports, if the
engine has another one, and about nothing else. -/
theorem Fit.tells_busy (h : s.Fit) (hw : s.engine.worker? i = some w) (hq : s.waiting i = none)
    {job : Job} (hp : w.phase = .busy job) : s.Tells (s.after (.work i)) := by
  obtain ⟨m, hholds⟩ := h.phase_holds hw hq
  have ha : s.after (.work i) = s.stepped i w
      ((s.engine.serve w.channel job.step).1, (s.engine.serve w.channel job.step).2.inside .busy
        (Engine.concluded w.channel job.work.profile)) := by
    simp only [Situation.after, hw, hq, Engine.step, hp]
  rw [hp] at hholds
  have hstep := Job.Holds.step hholds
  rw [ha]
  cases hjob : job.step with
  | finished outcome => exact tells_silent rfl
  | silent next => exact tells_silent rfl
  | say line next => exact tells_nothing [.said line] rfl rfl rfl
  | ask q next =>
    rw [hjob] at hstep
    cases q with
    | outside q => exact tells_ask hstep.1
    | «recall» => exact tells_silent rfl
    | report id =>
      simp only [Engine.serve]
      by_cases hknown : s.engine.sessions.get? w.channel = some (id : Text.Wide)
      · rw [if_pos hknown]
        exact tells_silent rfl
      · rw [if_neg hknown]
        exact .set rfl rfl rfl hknown rfl

/-- A worker that apologises tells the store nothing. -/
theorem Fit.tells_apologising (h : s.Fit) (hw : s.engine.worker? i = some w)
    (hq : s.waiting i = none) {rest : Dialogue Outside.service Unit}
    (hp : w.phase = .apologising rest) : s.Tells (s.after (.work i)) := by
  obtain ⟨m, hholds⟩ := h.phase_holds hw hq
  have ha : s.after (.work i) =
      s.stepped i w (s.engine, rest.step.inside .apologising fun _ => .free) := by
    simp only [Situation.after, hw, hq, Engine.step, hp]
  rw [hp] at hholds
  rw [ha]
  cases rest with
  | done => exact tells_silent rfl
  | say line rest => exact tells_nothing [.said line] rfl rfl rfl
  | ask q next => exact tells_ask (Outside.Request.change?_of_isAside hholds.1)

/-- A free worker tells the store nothing. -/
theorem tells_free (hw : s.engine.worker? i = some w) (hq : s.waiting i = none)
    (hp : w.phase = .free) : s.Tells (s.after (.work i)) := by
  have ha : s.after (.work i) = s.stepped i w (s.engine.takeNext i w.channel) := by
    simp only [Situation.after, hw, hq, Engine.step, hp]
  rw [ha]
  cases hi : (s.engine.queue w.channel).items with
  | nil =>
    rw [Engine.takeNext_of_nil hi]
    exact tells_nothing [.left] rfl rfl rfl
  | cons work rest =>
    rw [Engine.takeNext_of_cons hi]
    exact tells_silent rfl

end Worker

/-- A channel that is reset is deleted from the store. -/
theorem tells_reset {s : Situation} {channel : String} (hr : s.atRest channel = true)
    (answer : Outside.Answer) : s.Tells (s.after (.reset channel answer)) := by
  have ha : s.after (.reset channel answer) =
      { s with
        engine := (s.engine.reset channel).1
        record := s.record ++ [.reset channel
          ((s.engine.reset channel).2.run (fun _ q => (answer q, ())) ()).2.2] } := by
    simp only [Situation.after, hr, if_true]
  rw [ha]
  refine .reset rfl ?_ rfl rfl
  simp only [Engine.reset, Dialogue.run]
  cases answer (.store (.delete channel)) <;> rfl

/-- What a move tells the store. -/
theorem Fit.tells {s : Situation} (h : s.Fit) (m : Move) : s.Tells (s.after m) := by
  have hsame : ∀ {s' : Situation}, s' = s → s.Tells s' := by
    rintro s' rfl
    exact .nothing (List.append_nil s'.record).symm rfl rfl rfl
  -- The store is told something only by a reset and by a worker that waits for nothing.
  cases m with
  | receive item =>
    have hsessions : (s.engine.receive item).1.sessions = s.engine.sessions := by
      simp only [Engine.receive, Engine.enqueue]
      split
      · rfl
      · dsimp only
        split <;> rfl
    exact .nothing rfl rfl rfl hsessions
  | reset channel answer =>
    by_cases hr : s.atRest channel = true
    · exact tells_reset hr answer
    · exact hsame (by simp only [Situation.after, hr]; rfl)
  | work i =>
    cases hw : s.engine.worker? i with
    | none => exact hsame (by simp only [Situation.after, hw])
    | some w =>
      cases hq : s.waiting i with
      | some q => exact hsame (by simp only [Situation.after, hw, hq])
      | none =>
        cases hp : w.phase with
        | free => exact tells_free hw hq hp
        | busy job => exact h.tells_busy hw hq hp
        | apologising rest => exact h.tells_apologising hw hq hp
  | reply i answer =>
    cases hw : s.engine.worker? i with
    | none => exact hsame (by simp only [Situation.after, hw])
    | some w =>
      cases hq : s.waiting i with
      | none => exact hsame (by simp only [Situation.after, hw, hq])
      | some q =>
        have ha : s.after (.reply i answer) = s.answered i w q answer := by
          simp only [Situation.after, hw, hq]
        rw [ha]
        exact tells_nothing [.heard q.request (answer q.request)] rfl rfl rfl

/-! ## Every run -/

/-- What is recorded next adds its changes at the end. -/
theorem changes_append {s s' : Situation} {os : List Occurrence}
    (hrecord : s'.record = s.record ++ os) :
    s'.changes = s.changes ++ os.flatMap Occurrence.changes := by
  rw [changes, hrecord, List.flatMap_append, changes]

namespace Tells

variable {s s' : Situation}

/-- A store that has the sessions of the engine goes on to have them. -/
theorem store (h : s.Tells s') {store : SessionStore}
    (hsame : (s.changes.foldl SessionStore.remember store).sessions = s.engine.sessions) :
    (s'.changes.foldl SessionStore.remember store).sessions = s'.engine.sessions := by
  cases h with
  | nothing record changes _ sessions =>
    rw [changes_append record, changes, List.append_nil, hsame, sessions]
  | set record changes _ _ sessions =>
    rw [changes_append record, changes, List.foldl_append, sessions, ← hsame]
    rfl
  | reset record changes _ sessions =>
    rw [changes_append record, changes, List.foldl_append, sessions, ← hsame]
    rfl

/-- The store is told of the sessions that are new, each once. -/
theorem entries (h : s.Tells s') :
    s'.changes.filterMap SessionChange.entry? = s.changes.filterMap SessionChange.entry? ++
      s.engine.sessions.news s'.engine.sessions := by
  cases h with
  | nothing record changes _ sessions =>
    rw [changes_append record, changes, sessions, SessionTable.news_of_subset fun _ he => he,
      List.append_nil, List.append_nil]
  | set record changes _ other sessions =>
    rw [changes_append record, changes, sessions, SessionTable.news_set other,
      List.filterMap_append]
    rfl
  | reset record changes _ sessions =>
    rw [changes_append record, changes, sessions, SessionTable.news_erase, List.filterMap_append]
    rfl

/-- The store is told of the channels that are reset, each time once. -/
theorem deleted (h : s.Tells s')
    (hsame : s.changes.filterMap SessionChange.deleted? =
      s.record.filterMap Occurrence.resets?) :
    s'.changes.filterMap SessionChange.deleted? = s'.record.filterMap Occurrence.resets? := by
  have happend : ∀ {os : List Occurrence}, s'.record = s.record ++ os →
      (os.flatMap Occurrence.changes).filterMap SessionChange.deleted? =
        os.filterMap Occurrence.resets? →
      s'.changes.filterMap SessionChange.deleted? = s'.record.filterMap Occurrence.resets? := by
    intro os hrecord hos
    rw [changes_append hrecord, hrecord, List.filterMap_append, List.filterMap_append, hsame, hos]
  cases h with
  | nothing record changes resets _ | set record changes resets _ _
  | reset record changes resets _ =>
    refine happend record ?_
    rw [changes, resets]
    rfl

end Tells

/-- In the course of moves the store is told of the sessions that are set to another value. -/
theorem Fit.entries_run {s : Situation} (h : s.Fit) (ms : List Move) :
    (s.run ms).changes.filterMap SessionChange.entry? =
      s.changes.filterMap SessionChange.entry? ++ s.settings ms := by
  induction ms generalizing s with
  | nil => exact (List.append_nil _).symm
  | cons m ms ih => rw [run_cons, ih (h.after m), (h.tells m).entries, settings, List.append_assoc]

/-- **The sessions of a run.** In every run, whatever happens in whichever order:
* every turn in a channel that was not reset before is started with the last session that an event
  reported there, or with the stored one where none was reported;
* the store has the sessions that the engine has;
* the store is told to set a session once for each time that the engine sets the session of a
  channel to another value, and never else;
* the store is told to delete a session once for each reset, and never else. -/
theorem sessions_of_run (config : Config) (systemPrompt : Option String) (store : SessionStore)
    (ms : List Move) :
    let s := (start config systemPrompt store.sessions).run ms
    (∀ c before i turn after,
      s.recordOf c = before ++ .worked i c (.asked (.agent (.start turn))) :: after →
      ¬Memory.Resets before →
        turn.session = (Memory.lastReported before).or (store.sessions.session? c)) ∧
    (s.changes.foldl SessionStore.remember store).sessions = s.engine.sessions ∧
    s.changes.filterMap SessionChange.entry? =
      (start config systemPrompt store.sessions).settings ms ∧
    s.changes.filterMap SessionChange.deleted? = s.record.filterMap Occurrence.resets? := by
  intro s
  have hstart := fit_start config systemPrompt store.sessions
  have hrun : s.Fit ∧
      (s.changes.foldl SessionStore.remember store).sessions = s.engine.sessions ∧
      s.changes.filterMap SessionChange.deleted? = s.record.filterMap Occurrence.resets? := by
    refine run_induction (P := fun t => t.Fit ∧
      (t.changes.foldl SessionStore.remember store).sessions = t.engine.sessions ∧
      t.changes.filterMap SessionChange.deleted? = t.record.filterMap Occurrence.resets?)
      ?_ ⟨hstart, rfl, rfl⟩ ms
    rintro t m ⟨hfit, hsame, hdeleted⟩
    exact ⟨hfit.after m, (hfit.tells m).store hsame, (hfit.tells m).deleted hdeleted⟩
  exact ⟨fun c before i turn after => turn_resumes, hrun.2.1, hstart.entries_run ms, hrun.2.2⟩

/-- An agent reports its session, and then something else comes in. -/
def resumedRun : Situation :=
  let item : Incoming := .reaction
    { emoji := "x", messageId := "1", channelId := "100", channelName := "general", userId := "42" }
  let late := reporting (some { kind := .session, session := some "late" })
  let ended := reporting none
  let moves : List Move := [.receive item, .work 1, .work 1, .work 1, .work 1, .reply 1 ended,
    .work 1, .reply 1 late, .work 1, .work 1, .reply 1 ended, .work 1, .work 1, .reply 1 ended,
    .work 1, .reply 1 ended, .work 1, .work 1, .work 1, .receive item, .work 1, .work 1, .work 1,
    .work 1]
  (start { token := "", operator := "42", model := "", channels := [{ name := "general" }] }
    none .empty).run moves

/-- In that run the session is resumed for what comes in later, and the store is told once to set
it. -/
theorem sessions_of_resumedRun : ∃ (before : List Occurrence) (turn : Agent.Turn),
    resumedRun.recordOf "100" = before ++ .worked 1 "100" (.asked (.agent (.start turn))) :: [] ∧
    ¬Memory.Resets before ∧ turn.session = some "late" ∧
    resumedRun.changes = [.set "100" "late"] := by
  obtain ⟨before, turn, hrecord, hresets, hreported⟩ : ∃ (before : List Occurrence)
      (turn : Agent.Turn),
      resumedRun.recordOf "100" = before ++ .worked 1 "100" (.asked (.agent (.start turn))) :: [] ∧
      ¬Memory.Resets before ∧ Memory.lastReported before = some "late" := by
    refine ⟨[.received _ true _, .worked 1 "100" (.took _), .worked 1 "100" (.said _),
      .worked 1 "100" (.asked (.agent (.start _))),
      .worked 1 "100" (.heard (.agent (.start _)) (.ok ())),
      .worked 1 "100" (.asked (.agent .next)),
      .worked 1 "100" (.heard (.agent .next) (.ok (some _))), .worked 1 "100" (.said _),
      .worked 1 "100" (.asked (.store (.set "100" "late"))),
      .worked 1 "100" (.heard (.store (.set "100" "late")) (.ok ())),
      .worked 1 "100" (.asked (.agent .next)),
      .worked 1 "100" (.heard (.agent .next) (.ok none)),
      .worked 1 "100" (.asked (.agent .close)),
      .worked 1 "100" (.heard (.agent .close) (.ok ())), .worked 1 "100" (.ended false),
      .received _ true _, .worked 1 "100" (.took _), .worked 1 "100" (.said _)], _, rfl, ?_, rfl⟩
    rintro ⟨c, events, hmem⟩
    simp at hmem
  have hsession :=
    (sessions_of_run _ _ ⟨⟨"", [".sessions.json"]⟩, .empty⟩ _).1 _ _ _ _ _ hrecord hresets
  rw [hreported, Option.some_or] at hsession
  exact ⟨before, turn, hrecord, hresets, hsession, rfl⟩

end Situation

end ChatRelay
