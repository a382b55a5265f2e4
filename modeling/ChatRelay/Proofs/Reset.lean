import ChatRelay.Proofs.Memory

/-!
# Resetting a channel

A reset makes a channel forget its session, and the next unit of work should begin a new one. It
does when nothing is going on in the channel. A unit of work that is going on knows the session
of its last turn, and the reset does not reach it: when its agent reports another session later,
the channel keeps that one, and the next unit of work resumes it; `lateRun` is such a run. When the
agent reports nothing but the session that is known already, the reset stands.

The main statement is `Situation.first_turn_after_reset`, which says exactly when it stands.
-/

namespace ChatRelay

/-- The turn of the agent that is started. -/
def Occurrence.started? : Occurrence → Option Agent.Turn
  | .worked _ _ (.asked (.agent (.start turn))) => some turn
  | _ => none

namespace Memory

/-- Somewhere in a record a channel is reset. -/
def Resets (os : List Occurrence) : Prop := ∃ c events, Occurrence.reset c events ∈ os

/-- Whatever an agent reports in a record is known to its turn, or forgotten by a reset that comes
later. -/
def Forgets (m : Memory) (os : List Occurrence) : Prop :=
  ∀ before i c (e : Agent.Event) after,
    os = before ++ .worked i c (.heard (.agent .next) (.ok (some e))) :: after →
      e.reported? = none ∨ e.reported? = (m.run before).held ∨ Resets after

/-- No answer starts a turn. -/
@[simp] theorem hear_fresh (m : Memory) (q : Outside.Request) (reply : Outside.service.Reply q) :
    (m.hear q reply).fresh = m.fresh := by
  unfold hear
  split
  · exact told_fresh m _
  · rfl

/-- Only a turn that is started makes a unit of work one with a turn. -/
theorem fresh_after {m : Memory} (hm : m.fresh = true) {o : Occurrence} (ho : o.started? = none) :
    (m.after o).fresh = true := by
  cases o with
  | received item admitted notes => exact hm
  | reset c events => exact hm
  | worked i c deed =>
    cases deed with
    | took work => rfl
    | heard q reply => exact (m.hear_fresh q reply).trans hm
    | asked q =>
      rcases q with _ | (turn | _ | _) | _ | _ | _ | _
      case agent.start => cases ho
      all_goals exact hm
    | said _ | ended _ | left => exact hm

/-- Where no turn is started, a unit of work goes on without one. -/
theorem fresh_run {m : Memory} (hm : m.fresh = true) {os : List Occurrence}
    (hos : ∀ o ∈ os, o.started? = none) : (m.run os).fresh = true := by
  induction os generalizing m with
  | nil => exact hm
  | cons o os ih =>
    have ho : (m.after o).fresh = true := fresh_after hm (hos o List.mem_cons_self)
    exact ih ho fun o' ho' => hos o' (List.mem_cons_of_mem o ho')

/-- The first occurrence of a record does no harm: if it is the report of a session that is not
known, the channel is reset later. -/
def Harmless (m : Memory) (rest : List Occurrence) : Occurrence → Prop
  | .worked _ _ (.heard (.agent .next) (.ok (some (e : Agent.Event)))) =>
    e.reported? = none ∨ e.reported? = m.held ∨ Resets rest
  | _ => True

/-- A record forgets where its first occurrence does no harm, and the rest forgets. -/
theorem forgets_cons (m : Memory) (o : Occurrence) (os : List Occurrence) :
    m.Forgets (o :: os) ↔ m.Harmless os o ∧ (m.after o).Forgets os := by
  constructor
  · intro h
    constructor
    · unfold Harmless
      split
      · exact h [] _ _ _ os rfl
      · trivial
    · rintro before i c e after rfl
      exact h (o :: before) i c e after rfl
  · rintro ⟨hfirst, hrest⟩ before i c e after hos
    cases before with
    | nil =>
      cases hos
      exact hfirst
    | cons first before =>
      cases hos
      exact hrest before i c e after rfl

/-- What a worker does resets no channel. -/
theorem resets_worked (i : Nat) (c : String) (deed : Deed) (rest : List Occurrence) :
    Resets (.worked i c deed :: rest) ↔ Resets rest := by
  simp only [Resets, List.mem_cons, reduceCtorEq, false_or]

/-- When a channel has no session after the report of an event, or is reset later. -/
theorem told_kept_eq_none_iff (m : Memory) (e : Agent.Event) (p : Prop) :
    (m.told e).kept = none ∨ p ↔
      (m.kept = none ∨ p) ∧ (e.reported? = none ∨ e.reported? = m.held ∨ p) := by
  unfold told
  cases e.reported? with
  | none => simp
  | some id =>
    by_cases h : m.held = some id
    · simp [h]
    · have hne : ¬some id = m.held := fun heq => h heq.symm
      simp only [h, hne, if_false, reduceCtorEq, false_or]
      exact ⟨fun hp => ⟨.inr hp, hp⟩, fun hp => hp.2⟩

/-- When a channel has no session after an occurrence, or is reset later. -/
theorem after_kept_eq_none_iff (m : Memory) (o : Occurrence) (rest : List Occurrence) :
    (m.after o).kept = none ∨ Resets rest ↔
      (m.kept = none ∨ Resets (o :: rest)) ∧ m.Harmless rest o := by
  cases o with
  | received item admitted notes =>
    simp only [after, Resets, Harmless, List.mem_cons, reduceCtorEq, false_or, and_true]
  | reset c events =>
    have hreset : Resets (.reset c events :: rest) := ⟨c, events, List.mem_cons_self⟩
    simp only [after, Harmless, hreset, true_or, or_true, and_true]
  | worked i c deed =>
    rw [resets_worked]
    cases deed with
    | asked q => simp only [after, ask_kept, Harmless, and_true]
    | heard q reply =>
      rcases q with _ | (turn | _ | _) | _ | _ | _ | _
      case agent.next =>
        rcases reply with failure | _ | e
        · simp only [after, hear, Harmless, and_true]
        · simp only [after, hear, Harmless, and_true]
        · exact m.told_kept_eq_none_iff e _
      all_goals simp only [after, hear, Harmless, and_true]
    | took _ | said _ | ended _ | left => simp only [after, Harmless, and_true]

/-- A channel has no session after a record, just where it had none before or is reset, and the
record forgets what is reported. -/
theorem kept_run_eq_none_iff (m : Memory) (os : List Occurrence) :
    (m.run os).kept = none ↔ (m.kept = none ∨ Resets os) ∧ m.Forgets os := by
  induction os generalizing m with
  | nil =>
    have hforgets : m.Forgets [] := by
      intro before i c e after hos
      simp at hos
    have hresets : ¬Resets [] := by
      rintro ⟨c, events, h⟩
      simp at h
    simp only [hforgets, hresets, or_false, and_true]
    rfl
  | cons o os ih =>
    rw [forgets_cons, ← and_assoc, ← after_kept_eq_none_iff]
    exact ih (m.after o)

end Memory

namespace Situation

variable {config : Config} {systemPrompt : Option String} {sessions : SessionTable}

/-- What the record of a channel says about its session, after a part of the record. -/
def memory (sessions : SessionTable) (c : String) (os : List Occurrence) : Memory :=
  Memory.run { kept := sessions.get? (c : String) } os

/-- The first turn of a unit of work begins as the memory has it. -/
theorem first_turn_begins {ms : List Move} {c : String} {before after : List Occurrence} {i : Nat}
    {turn : Agent.Turn}
    (hrecord : ((start config systemPrompt sessions).run ms).recordOf c =
      before ++ .worked i c (.asked (.agent (.start turn))) :: after)
    (hfresh : (memory sessions c before).fresh = true) :
    (memory sessions c before).Begins systemPrompt turn := by
  obtain ⟨os, hos, hrun⟩ := desk_run (start_sound config systemPrompt sessions) ms c
  have hsplit : os = before ++ .worked i c (.asked (.agent (.start turn))) :: after :=
    hos.symm.trans hrecord
  obtain ⟨d, d', hbefore, hnext, -⟩ := hrun.split hsplit
  have hstart : ((start config systemPrompt sessions).desk c).Keeps systemPrompt
      { kept := sessions.get? (c : String) } := rfl
  exact (hstart.run hbefore).begins hfresh hnext

/-- **When a reset stands.** After a reset, the first turn of a unit of work that is taken later
starts a new session with the system prompt, just where every session that was reported since then
was known to its turn, or forgotten by another reset. -/
theorem first_turn_after_reset {ms : List Move} {c : String}
    {before between since after : List Occurrence}
    {events : List (Dialogue.Event Outside.service)} {i j : Nat} {work : Work} {turn : Agent.Turn}
    (hrecord : ((start config systemPrompt sessions).run ms).recordOf c =
      before ++ .reset c events :: (between ++ .worked i c (.took work) ::
        (since ++ .worked j c (.asked (.agent (.start turn))) :: after)))
    (hsince : ∀ o ∈ since, o.started? = none) :
    (turn.session = none ∧ turn.systemPrompt = systemPrompt) ↔
      (memory sessions c (before ++ [.reset c events])).Forgets
        (between ++ .worked i c (.took work) :: since) := by
  set m := memory sessions c (before ++ [.reset c events]) with hm
  set os := between ++ .worked i c (.took work) :: since with hos
  have hmemory : memory sessions c (before ++ .reset c events :: os) = m.run os := by
    rw [hm, memory, memory, ← Memory.run_append, List.append_assoc]
    rfl
  have hrecord' : ((start config systemPrompt sessions).run ms).recordOf c =
      (before ++ .reset c events :: os) ++
        .worked j c (.asked (.agent (.start turn))) :: after := by
    rw [hrecord, hos]
    simp only [List.append_assoc, List.cons_append]
  have hfresh : (m.run os).fresh = true := by
    rw [hos, Memory.run_append]
    exact Memory.fresh_run (m := (m.run between).after (.worked i c (.took work))) rfl hsince
  have hbegins : (m.run os).Begins systemPrompt turn := by
    rw [← hmemory] at hfresh ⊢
    exact first_turn_begins hrecord' hfresh
  have hkept : m.kept = none := by
    rw [hm, memory, Memory.run_append]
    rfl
  have hforgets : (m.run os).kept = none ↔ m.Forgets os := by
    rw [Memory.kept_run_eq_none_iff, hkept]
    simp only [true_or, true_and]
  rw [← hforgets, hbegins.session, hbegins.systemPrompt]
  cases (m.run os).kept with
  | none => simp
  | some id => simp

/-- After every reset of a channel, the first turn of the next unit of work starts a new session
with the system prompt. -/
def ResetWins (s : Situation) (systemPrompt : Option String) (c : String) : Prop :=
  ∀ (before between since after : List Occurrence)
    (events : List (Dialogue.Event Outside.service)) (i j : Nat) (work : Work)
    (turn : Agent.Turn), s.recordOf c =
      before ++ .reset c events :: (between ++ .worked i c (.took work) ::
        (since ++ .worked j c (.asked (.agent (.start turn))) :: after)) →
    (∀ o ∈ between, o.taken? = none) → (∀ o ∈ since, o.taken? = none ∧ o.started? = none) →
      turn.session = none ∧ turn.systemPrompt = systemPrompt

/-- An agent that reports this event next, or has none left. -/
def reporting (event : Option Agent.Event) : Outside.Answer
  | .agent (.start _) => .ok ()
  | .agent .next => .ok event
  | .agent .close => .ok ()
  | .store _ => .ok ()
  | _ => .error (.service "" "")

/-- A channel is reset while its agent is at work, which reports its session after that. Then
something else comes in. -/
def lateRun : Situation :=
  let item : Incoming := .reaction
    { emoji := "x", messageId := "1", channelId := "100", channelName := "general", userId := "42" }
  let late := reporting (some { kind := .session, session := some "late" })
  let ended := reporting none
  let moves : List Move := [.receive item, .work 1, .work 1, .work 1, .work 1, .reply 1 ended,
    .work 1, .reset "100" ended, .reply 1 late, .work 1, .work 1, .reply 1 ended, .work 1, .work 1,
    .reply 1 ended, .work 1, .reply 1 ended, .work 1, .work 1, .work 1, .receive item, .work 1,
    .work 1, .work 1, .work 1]
  (start { token := "", operator := "42", model := "", channels := [{ name := "general" }] }
    (some "Be brief.") .empty).run moves

/-- What happens in the channel of that run. -/
theorem lateRun_record : ∃ (before between since : List Occurrence)
    (events : List (Dialogue.Event Outside.service)) (work : Work) (turn : Agent.Turn),
    lateRun.recordOf "100" =
      before ++ .reset "100" events :: (between ++ .worked 1 "100" (.took work) ::
        (since ++ .worked 1 "100" (.asked (.agent (.start turn))) :: [])) ∧
    (∀ o ∈ between, o.taken? = none) ∧ (∀ o ∈ since, o.taken? = none ∧ o.started? = none) ∧
    turn.session = some "late" := by
  refine ⟨[.received _ true _, .worked 1 "100" (.took _), .worked 1 "100" (.said _),
      .worked 1 "100" (.asked (.agent (.start _))),
      .worked 1 "100" (.heard (.agent (.start _)) (.ok ())),
      .worked 1 "100" (.asked (.agent .next))],
    [.worked 1 "100" (.heard (.agent .next) (.ok (some _))), .worked 1 "100" (.said _),
      .worked 1 "100" (.asked (.store (.set "100" "late"))),
      .worked 1 "100" (.heard (.store (.set "100" "late")) (.ok ())),
      .worked 1 "100" (.asked (.agent .next)),
      .worked 1 "100" (.heard (.agent .next) (.ok none)),
      .worked 1 "100" (.asked (.agent .close)),
      .worked 1 "100" (.heard (.agent .close) (.ok ())), .worked 1 "100" (.ended false),
      .received _ true _], [.worked 1 "100" (.said _)], _, _, _, rfl, ?_, ?_, rfl⟩
  · simp [Occurrence.taken?]
  · simp [Occurrence.taken?, Occurrence.started?]

/-- The reset does not win in that run. -/
theorem not_resetWins_lateRun : ¬lateRun.ResetWins (some "Be brief.") "100" := by
  obtain ⟨before, between, since, events, work, turn, hrecord, hbetween, hsince, hturn⟩ :=
    lateRun_record
  intro hwins
  have hsession := (hwins _ _ _ _ _ _ _ _ _ hrecord hbetween hsince).1
  rw [hturn] at hsession
  cases hsession

/-- In that run a session is reported which is not forgotten, and it is resumed. -/
theorem first_turn_in_lateRun : ∃ (before between since : List Occurrence)
    (events : List (Dialogue.Event Outside.service)) (work : Work) (turn : Agent.Turn),
    lateRun.recordOf "100" =
      before ++ .reset "100" events :: (between ++ .worked 1 "100" (.took work) ::
        (since ++ .worked 1 "100" (.asked (.agent (.start turn))) :: [])) ∧
    (∀ o ∈ since, o.started? = none) ∧ turn.session = some "late" ∧
    ¬(memory .empty "100" (before ++ [.reset "100" events])).Forgets
      (between ++ .worked 1 "100" (.took work) :: since) := by
  obtain ⟨before, between, since, events, work, turn, hrecord, -, hsince, hturn⟩ :=
    lateRun_record
  have hstarted : ∀ o ∈ since, o.started? = none := fun o ho => (hsince o ho).2
  refine ⟨before, between, since, events, work, turn, hrecord, hstarted, hturn, fun hforgets => ?_⟩
  have hsession := ((first_turn_after_reset hrecord hstarted).mpr hforgets).1
  rw [hturn] at hsession
  cases hsession

end Situation

end ChatRelay
