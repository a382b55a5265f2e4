import ChatRelay.Proofs.Desk.Keeping
import ChatRelay.Proofs.Restart

/-!
# New and resumed sessions

A turn of the agent starts a new session, and then it is told the system prompt, or it resumes a
session, and then it is not. Whether there is a session is decided twice: a unit of work takes an
empty name for no session, and its conversation takes every name for one.

The name of a session is never empty when an agent reports it, but the file of the store may give a
channel an empty name, and until an agent reports another one or the channel is reset, the turns
there resume a session without a name. The main statement is `Situation.told_apart_iff`, which says
exactly when that happens, and in `blankRun` it does.
-/

namespace ChatRelay

namespace Agent.Turn

variable {systemPrompt : Option String} {turn : Turn}

/-- A turn that starts a new session, and is told the system prompt. -/
def IsNew (systemPrompt : Option String) (turn : Turn) : Prop :=
  turn.session = none ∧ turn.systemPrompt = systemPrompt

/-- A turn that resumes a session, and is told no system prompt. -/
def IsResumed (turn : Turn) : Prop :=
  (∃ session, session ≠ "" ∧ turn.session = some session) ∧ turn.systemPrompt = none

/-- A turn that does one of the two, and not the other. -/
def IsToldApart (systemPrompt : Option String) (turn : Turn) : Prop :=
  turn.IsNew systemPrompt ∧ ¬turn.IsResumed ∨ turn.IsResumed ∧ ¬turn.IsNew systemPrompt

/-- A turn that is told the system prompt where it knows no session starts a new session or resumes
one, unless the session that it knows has no name. -/
theorem isToldApart_iff
    (h : turn.systemPrompt = if turn.session = none then systemPrompt else none) :
    turn.IsToldApart systemPrompt ↔ turn.session ≠ some "" := by
  cases hsession : turn.session with
  | none =>
    rw [hsession, if_pos rfl] at h
    have hnew : turn.IsNew systemPrompt := ⟨hsession, h⟩
    have hresumed : ¬turn.IsResumed := by
      rintro ⟨⟨session, -, hsome⟩, -⟩
      rw [hsession] at hsome
      cases hsome
    exact ⟨fun _ => nofun, fun _ => .inl ⟨hnew, hresumed⟩⟩
  | some session =>
    rw [hsession, if_neg nofun] at h
    have hnew : ¬turn.IsNew systemPrompt := by
      rintro ⟨hnone, -⟩
      rw [hsession] at hnone
      cases hnone
    have hresumed : turn.IsResumed ↔ session ≠ "" := by
      constructor
      · rintro ⟨⟨session', hne, hsome⟩, -⟩
        rw [hsession] at hsome
        cases hsome
        exact hne
      · exact fun hne => ⟨⟨session, hne, hsession⟩, h⟩
    have happart : turn.IsToldApart systemPrompt ↔ turn.IsResumed := by
      simp only [IsToldApart, hnew, false_and, not_false_eq_true, and_true, false_or]
    rw [happart, hresumed, ne_eq, ne_eq, Option.some.injEq]

end Agent.Turn

/-! ## Who is told the system prompt -/

section Tells

variable {systemPrompt : Option String}

/-- A turn that is started is told the system prompt just where it knows no session. -/
def Work.Request.Tells (systemPrompt : Option String) (q : Work.Request) : Prop :=
  ∀ turn, q = .outside (.agent (.start turn)) →
    turn.systemPrompt = if turn.session = none then systemPrompt else none

/-- What starts no turn tells nobody the system prompt. -/
theorem Work.Request.IsApart.tells {q : Work.Request} (h : q.IsApart) : q.Tells systemPrompt := by
  rintro turn rfl
  exact h.elim

/-- A conversation that knows no session has the system prompt to tell it. -/
def Conversation.Tells (systemPrompt : Option String) (c : Conversation) : Prop :=
  (c.session = none → c.setup.systemPrompt = systemPrompt) ∧
    match c.phase with
    | .reacting work => work.Asks (Work.Request.Tells systemPrompt)
    | .answering work => work.Asks (Work.Request.Tells systemPrompt)
    | _ => True

/-- A unit of work has the system prompt of the engine. -/
def Job.Tells (systemPrompt : Option String) (j : Job) : Prop :=
  j.systemPrompt = systemPrompt ∧
    match j.phase with
    | .fetching _ work => work.Asks (Work.Request.Tells systemPrompt)
    | .talking c => c.Tells systemPrompt
    | .tidying _ work => work.Asks (Work.Request.Tells systemPrompt)
    | .recalling _ | .over _ => True

/-- A conversation learns of sessions, and forgets none. -/
theorem Conversation.step_tells (c : Conversation) (h : c.Tells systemPrompt) :
    c.step.Stays (Work.Request.Tells systemPrompt) (Conversation.Tells systemPrompt) := by
  obtain ⟨setup, session, turnCount, depth, rounds, phase⟩ := c
  obtain ⟨hprompt, hphase⟩ := h
  cases phase with
  | prompting prompt =>
    simp only [step, prompted]
    split <;> exact ⟨hprompt, trivial⟩
  | starting prompt =>
    refine ⟨?_, fun r => ?_⟩
    · rintro _ ⟨⟩
      cases session with
      | none => exact hprompt rfl
      | some id => rfl
    · cases r <;> exact ⟨hprompt, trivial⟩
  | listening =>
    refine ⟨by rintro _ ⟨⟩, fun r => ?_⟩
    rcases r with _ | _ | e
    · exact ⟨hprompt, trivial⟩
    · exact ⟨hprompt, trivial⟩
    · refine ⟨fun hnone => hprompt (Option.or_eq_none_iff.mp hnone).2, ?_⟩
      exact (asks_react setup.place session e).mono fun _ => Work.Request.IsApart.tells
  | reacting work =>
    refine (Step.stays_dialogue work hphase).inside (fun _ hwork => ⟨hprompt, hwork⟩)
      fun verdict => ?_
    rcases verdict with _ | _ | question <;> exact ⟨hprompt, trivial⟩
  | closing verdict =>
    refine ⟨by rintro _ ⟨⟩, fun r => ?_⟩
    rcases r with _ | _
    · exact ⟨hprompt, trivial⟩
    · rcases verdict with _ | _ | question <;> exact ⟨hprompt, trivial⟩
  | asked question =>
    simp only [step, questioned]
    split
    · exact ⟨hprompt, trivial⟩
    · exact ⟨hprompt, (asks_answer setup question).mono fun _ => Work.Request.IsApart.tells⟩
  | answering work =>
    exact (Step.stays_dialogue work hphase).inside (fun _ hwork => ⟨hprompt, hwork⟩)
      fun prompt => ⟨hprompt, trivial⟩
  | «over» outcome => trivial

/-- What a unit of work does besides its conversation starts no turn. -/
theorem Work.tells_ofOutside {α : Type} {d : Dialogue Outside.service α}
    (h : d.Asks Outside.Request.IsAside) :
    (Work.ofOutside d).Asks (Work.Request.Tells systemPrompt) :=
  (Work.isApart_ofOutside h).mono fun _ => Work.Request.IsApart.tells

/-- A unit of work keeps the system prompt, and its conversation gets it where the channel has no
session. -/
theorem Job.step_tells (j : Job) (h : j.Tells systemPrompt) :
    j.step.Stays (Work.Request.Tells systemPrompt) (Job.Tells systemPrompt) := by
  obtain ⟨settings, _, work, files, phase⟩ := j
  obtain ⟨rfl, hphase⟩ := h
  cases phase with
  | fetching m download =>
    refine (Step.stays_dialogue download hphase).inside (fun _ hwork => ⟨rfl, hwork⟩)
      fun outcome => ?_
    cases outcome <;> exact ⟨rfl, trivial⟩
  | recalling prompt =>
    refine ⟨nofun, fun r => ?_⟩
    cases r with
    | error e => exact ⟨rfl, Work.tells_ofOutside (Attachment.asks_cleanup _)⟩
    | ok session =>
      refine ⟨rfl, fun hnone => ?_, trivial⟩
      cases hnone
      rfl
  | talking c =>
    exact (Conversation.step_tells c hphase).inside (fun _ hc => ⟨rfl, hc⟩)
      fun outcome => ⟨rfl, Work.tells_ofOutside (Attachment.asks_cleanup _)⟩
  | tidying outcome cleaning =>
    refine (Step.stays_dialogue cleaning hphase).inside (fun _ hwork => ⟨rfl, hwork⟩)
      fun outcome' => ?_
    cases outcome' <;> exact ⟨rfl, trivial⟩
  | «over» outcome => trivial

/-- A unit of work begins with the system prompt of the relay. -/
theorem Job.tells_begin (settings : EngineSettings) (systemPrompt : Option String) (work : Work) :
    (Job.begin settings systemPrompt work).Tells systemPrompt := by
  refine ⟨rfl, ?_⟩
  unfold Job.begin
  cases work.item with
  | message m => exact Work.tells_ofOutside (Attachment.asks_download _ _)
  | reaction r => trivial

/-- In every run a turn is told the system prompt just where it knows no session. -/
theorem Situation.turn_tells {config : Config} {sessions : SessionTable} {ms : List Move}
    {c : String} {before after : List Occurrence} {i : Nat} {turn : Agent.Turn}
    (hrecord : ((start config systemPrompt sessions).run ms).recordOf c =
      before ++ .worked i c (.asked (.agent (.start turn))) :: after) :
    turn.systemPrompt = if turn.session = none then systemPrompt else none :=
  asked_of_stays (Job.tells_begin config.engine systemPrompt) Job.step_tells hrecord turn rfl

end Tells

/-! ## Sessions without a name -/

/-- A session that is reported has a name. -/
theorem Agent.Event.name_ne_empty {e : Agent.Event} {session : String}
    (h : e.reported? = some session) : session ≠ "" := by
  obtain ⟨-, hname⟩ := Option.filter_eq_some_iff.mp h
  exact of_decide_eq_true hname

/-- What reports a session starts no turn. -/
theorem Occurrence.started?_of_reported {o : Occurrence} {session : String}
    (h : o.reported? = some session) : o.started? = none := by
  unfold reported? at h
  split at h
  · rfl
  · cases h

namespace Memory

variable {m m' : Memory} {o : Occurrence} {os : List Occurrence}

/-- What the next turn will be started with. -/
def known (m : Memory) : Option String :=
  if m.fresh then m.kept.map Text.Wide.text else m.held

/-- Every reset in a record came while the unit of work was going on that is the last one, and
behind its first turn. -/
def Midway (os : List Occurrence) : Prop :=
  ∀ before c events after, os = before ++ .reset c events :: after →
    (run {} before).fresh = false ∧ ∀ o ∈ after, o.taken? = none

/-- No session without a name is reported. -/
theorem lastReported_ne_empty (os : List Occurrence) : lastReported os ≠ some "" := by
  intro hempty
  obtain ⟨o, -, ho⟩ := List.mem_filterMap.mp (List.mem_of_getLast? hempty)
  unfold Occurrence.reported? at ho
  split at ho
  · exact Agent.Event.name_ne_empty ho rfl
  · cases ho

/-! ### What a channel keeps -/

/-- A channel whose session has a name, or that has none, does not come to a session without a
name. -/
theorem after_named (h : m.kept.map Text.Wide.text ≠ some "") (o : Occurrence) :
    (m.after o).kept.map Text.Wide.text ≠ some "" := by
  cases o with
  | received item admitted notes => exact h
  | reset c events => exact nofun
  | worked i c deed =>
    cases deed with
    | took _ | said _ | ended _ | left => exact h
    | asked q =>
      rw [after, ask_kept]
      exact h
    | heard q reply =>
      rcases q with _ | (turn | _ | _) | _ | _ | _ | _
      case agent.next =>
        rcases reply with failure | _ | e
        · exact h
        · exact h
        · rw [after, hear, told]
          cases hreported : e.reported? with
          | none => exact h
          | some session =>
            dsimp only
            split
            · exact h
            · rw [Option.map_some, Text.Wide.text_ofString]
              exact fun hempty => Agent.Event.name_ne_empty hreported (Option.some.inj hempty)
      all_goals exact h

/-- A channel that keeps no session without a name keeps none along a record. -/
theorem run_named (h : m.kept.map Text.Wide.text ≠ some "") (os : List Occurrence) :
    (m.run os).kept.map Text.Wide.text ≠ some "" := by
  induction os generalizing m with
  | nil => exact h
  | cons o os ih => exact ih (after_named h o)

/-- A channel that was reset has no session without a name. -/
theorem named_of_resets (h : Resets os) (m : Memory) :
    (m.run os).kept.map Text.Wide.text ≠ some "" := by
  obtain ⟨c, events, hmem⟩ := h
  obtain ⟨before, after, rfl⟩ := List.append_of_mem hmem
  have hreset : ((m.run before).after (.reset c events)).kept.map Text.Wide.text ≠ some "" := nofun
  rw [run_append]
  exact run_named hreset after

/-- After an occurrence a turn knows the session that it is started with, or that is reported. -/
theorem after_held (m : Memory) (o : Occurrence) :
    (m.after o).held =
      (o.started?.map Agent.Turn.session).getD (o.reported?.or m.held) := by
  cases o with
  | received item admitted notes => rfl
  | reset c events => rfl
  | worked i c deed =>
    cases deed with
    | took _ | said _ | ended _ | left => rfl
    | asked q => rcases q with _ | (turn | _ | _) | _ | _ | _ | _ <;> rfl
    | heard q reply =>
      rcases q with _ | (turn | _ | _) | _ | _ | _ | _
      case agent.next =>
        rcases reply with failure | _ | e
        · rfl
        · rfl
        · exact m.told_held e
      all_goals rfl

/-- A turn that goes on with a unit of work is started with what the last one knows. -/
theorem known_after (hgoing : (m.after o).fresh = false) :
    (m.after o).known = (o.started?.map Agent.Turn.session).getD (o.reported?.or m.held) := by
  rw [known, hgoing, if_neg Bool.false_ne_true, after_held]

/-! ### Resets on the way -/

/-- Only the start of a unit of work and the start of a turn say whether there was a turn. -/
theorem after_fresh (m : Memory) (o : Occurrence) :
    (m.after o).fresh = (o.taken?.isSome || m.fresh && o.started?.isNone) := by
  cases o with
  | received item admitted notes => exact (Bool.and_true _).symm
  | reset c events => exact (Bool.and_true _).symm
  | worked i c deed =>
    cases deed with
    | took work => rfl
    | said _ | ended _ | left => exact (Bool.and_true _).symm
    | asked q =>
      rcases q with _ | (turn | _ | _) | _ | _ | _ | _
      case agent.start => exact (Bool.and_false _).symm
      all_goals exact (Bool.and_true _).symm
    | heard q reply => exact (m.hear_fresh q reply).trans (Bool.and_true _).symm

/-- Whether a turn was started does not depend on the sessions that are remembered. -/
theorem run_fresh (h : m.fresh = m'.fresh) (os : List Occurrence) :
    (m.run os).fresh = (m'.run os).fresh := by
  induction os generalizing m m' with
  | nil => exact h
  | cons o os ih => exact ih (by rw [after_fresh, after_fresh, h])

/-- A unit of work that has started a turn has done so until the next one is taken. -/
theorem run_not_fresh (h : m.fresh = false) (hos : ∀ o ∈ os, o.taken? = none) :
    (m.run os).fresh = false := by
  induction os generalizing m with
  | nil => exact h
  | cons o os ih =>
    obtain ⟨ho, hrest⟩ := List.forall_mem_cons.mp hos
    have hafter : (m.after o).fresh = false := by
      rw [after_fresh, ho, h]
      rfl
    exact ih hafter hrest

/-- As long as a unit of work has started no turn, no reset came on the way. -/
theorem midway_iff_of_fresh (h : (run {} os).fresh = true) : Midway os ↔ ¬Resets os := by
  constructor
  · rintro hmidway ⟨c, events, hmem⟩
    obtain ⟨before, after, rfl⟩ := List.append_of_mem hmem
    obtain ⟨hbefore, hafter⟩ := hmidway before c events after rfl
    have hrun : (run {} (before ++ .reset c events :: after)).fresh = false := by
      rw [run_append]
      exact run_not_fresh hbefore (List.forall_mem_cons.mpr ⟨rfl, hafter⟩)
    rw [h] at hrun
    cases hrun
  · rintro hresets before c events after rfl
    exact absurd ⟨c, events, List.mem_append_right _ List.mem_cons_self⟩ hresets

/-- What is neither a reset nor the start of a unit of work has no say in it, and a reset on the way
has none either. -/
theorem midway_concat (ho : o.taken? = none)
    (hreset : ∀ c events, o = .reset c events → (run {} os).fresh = false) :
    Midway (os ++ [o]) ↔ Midway os := by
  constructor
  · rintro hmidway before c events after rfl
    obtain ⟨hbefore, hafter⟩ := hmidway before c events (after ++ [o])
      (by rw [List.append_assoc, List.cons_append])
    exact ⟨hbefore, fun o' ho' => hafter o' (List.mem_append_left _ ho')⟩
  · intro hmidway before c events after hos
    rcases after.eq_nil_or_concat' with rfl | ⟨after, last, rfl⟩
    · obtain ⟨rfl, hlast⟩ := List.append_inj' hos rfl
      exact ⟨hreset c events (List.singleton_inj.mp hlast), List.forall_mem_nil _⟩
    · have hsplit : os ++ [o] = (before ++ .reset c events :: after) ++ [last] := by
        rw [hos, List.append_assoc, List.cons_append]
      obtain ⟨rfl, hlast⟩ := List.append_inj' hsplit rfl
      cases List.singleton_inj.mp hlast
      obtain ⟨hbefore, hafter⟩ := hmidway before c events after rfl
      rw [List.forall_mem_append, List.forall_mem_singleton]
      exact ⟨hbefore, hafter, ho⟩

/-- Where nothing is reported and no unit of work starts, nothing is reported that was not before,
and the resets on the way are those before. -/
theorem unnamed_concat (ho : o.taken? = none) (hreported : o.reported? = none)
    (hreset : ∀ c events, o = .reset c events → (run {} os).fresh = false) :
    lastReported (os ++ [o]) = none ∧ Midway (os ++ [o]) ↔
      lastReported os = none ∧ Midway os := by
  rw [lastReported_append, hreported, Option.none_or, midway_concat ho hreset]

end Memory

/-! ## What turns are started with -/

namespace Situation

variable {config : Config} {systemPrompt : Option String} {sessions : SessionTable} {c : String}
  {ms : List Move} {before after : List Occurrence}

/-- A turn is started with the session that is known by then. -/
theorem turn_session_eq_known {i : Nat} {turn : Agent.Turn}
    (hrecord : ((start config systemPrompt sessions).run ms).recordOf c =
      before ++ .worked i c (.asked (.agent (.start turn))) :: after) :
    turn.session = (memory sessions c before).known := turn_session hrecord

/-- Whether a turn was started does not depend on the sessions of the start. -/
theorem memory_fresh (sessions : SessionTable) (c : String) (os : List Occurrence) :
    (memory sessions c os).fresh = (Memory.run {} os).fresh :=
  @Memory.run_fresh { kept := sessions.get? (c : String) } {} rfl os

/-- A channel keeps a session without a name as long as it is not reset and none is reported. -/
theorem kept_eq_blank_iff
    (hrecord : ((start config systemPrompt sessions).run ms).recordOf c = before ++ after) :
    (memory sessions c before).kept.map Text.Wide.text = some "" ↔
      sessions.session? c = some "" ∧ Memory.lastReported before = none ∧
        ¬Memory.Resets before := by
  by_cases hresets : Memory.Resets before
  · have hnamed := Memory.named_of_resets hresets { kept := sessions.get? (c : String) }
    exact ⟨fun hblank => absurd hblank hnamed, fun h => absurd hresets h.2.2⟩
  · rw [(memory_agrees hrecord hresets).2]
    cases hreported : Memory.lastReported before with
    | none => simp only [Option.none_or, hresets, not_false_eq_true, and_true]
    | some session =>
      rw [Option.some_or, ← hreported]
      have hnamed := Memory.lastReported_ne_empty before
      refine ⟨fun hblank => absurd hblank hnamed, fun h => ?_⟩
      rw [hreported] at h
      cases h.2.1

/-- While a unit of work goes on with its turns and nothing is reported, what its next turn knows is
the same, and so is what the record says about it. -/
theorem known_concat {o : Occurrence}
    (hrecord : ((start config systemPrompt sessions).run ms).recordOf c = before ++ o :: after)
    (hgoing : ((memory sessions c before).after o).fresh = false) (hreported : o.reported? = none) :
    ((memory sessions c before).after o).known = (memory sessions c before).known ∧
      (Memory.lastReported (before ++ [o]) = none ∧ Memory.Midway (before ++ [o]) ↔
        Memory.lastReported before = none ∧ Memory.Midway before) := by
  have hknown := Memory.known_after hgoing
  rw [Memory.after_fresh, Bool.or_eq_false_iff] at hgoing
  obtain ⟨htaken, hgoing⟩ := hgoing
  rw [Option.isSome_eq_false_iff, Option.isNone_iff_eq_none] at htaken
  cases hstarted : o.started? with
  | some turn =>
    have hmem : o ∈ ((start config systemPrompt sessions).run ms).recordOf c := by
      rw [hrecord]
      exact List.mem_append_right _ List.mem_cons_self
    obtain ⟨i, rfl⟩ := eq_worked_of_started hmem hstarted
    refine ⟨?_, Memory.unnamed_concat htaken rfl nofun⟩
    rw [hknown, hstarted, Option.map_some, Option.getD_some]
    exact turn_session_eq_known hrecord
  | none =>
    rw [hstarted, Option.isNone_none, Bool.and_true] at hgoing
    have hfresh : (Memory.run {} before).fresh = false :=
      (memory_fresh sessions c before).symm.trans hgoing
    refine ⟨?_, Memory.unnamed_concat htaken hreported fun _ _ _ => hfresh⟩
    rw [hknown, hstarted, Option.map_none, Option.getD_none, hreported, Option.none_or,
      Memory.known, hgoing, if_neg Bool.false_ne_true]

/-- A turn is started without a name just where the channel had a session without one at the start,
none was reported since, and no reset came before the unit of work had started a turn. -/
theorem known_eq_blank_iff
    (hrecord : ((start config systemPrompt sessions).run ms).recordOf c = before ++ after) :
    (memory sessions c before).known = some "" ↔
      sessions.session? c = some "" ∧ Memory.lastReported before = none ∧
        Memory.Midway before := by
  induction before using List.reverseRecOn generalizing after with
  | nil =>
    have hmidway : Memory.Midway [] := fun _ _ _ _ hos => absurd hos (by simp)
    exact ⟨fun h => ⟨h, rfl, hmidway⟩, fun h => h.1⟩
  | append_singleton before o ih =>
    have hmemory : memory sessions c (before ++ [o]) = (memory sessions c before).after o :=
      Memory.run_append _ before [o]
    have hrecord' : ((start config systemPrompt sessions).run ms).recordOf c =
        before ++ o :: after := by
      rw [hrecord, List.append_assoc, List.singleton_append]
    cases hfresh : (memory sessions c (before ++ [o])).fresh with
    | true =>
      -- The next turn is the first one of its unit of work, and takes what the channel keeps.
      rw [Memory.known, hfresh, if_pos rfl,
        Memory.midway_iff_of_fresh ((memory_fresh sessions c _).symm.trans hfresh)]
      exact kept_eq_blank_iff hrecord
    | false =>
      -- The next turn goes on with what the last one knows.
      rw [hmemory] at hfresh ⊢
      cases hreported : o.reported? with
      | none =>
        obtain ⟨hknown, hsame⟩ := known_concat hrecord' hfresh hreported
        rw [hknown, hsame]
        exact ih hrecord'
      | some session =>
        have hlast : Memory.lastReported (before ++ [o]) = some session := by
          rw [Memory.lastReported_append, hreported, Option.some_or]
        have hnamed := Memory.lastReported_ne_empty (before ++ [o])
        rw [Memory.known_after hfresh, Occurrence.started?_of_reported hreported, hreported, hlast]
        rw [hlast] at hnamed
        exact ⟨fun hblank => absurd hblank hnamed, fun h => nomatch h.2.1⟩

/-- **When new and resumed sessions are told apart.** In every run, whatever the file of the store
says and whatever happens, a turn is told the system prompt just where it knows no session. It
starts a new session or resumes one, unless the file gave the channel a session without a name, none
was reported since, and no reset came before its unit of work had started a turn: then it is started
with a session without a name, and is told no system prompt. -/
theorem told_apart_iff {i : Nat} {turn : Agent.Turn}
    (hrecord : ((start config systemPrompt sessions).run ms).recordOf c =
      before ++ .worked i c (.asked (.agent (.start turn))) :: after) :
    turn.systemPrompt = (if turn.session = none then systemPrompt else none) ∧
      (turn.IsToldApart systemPrompt ↔ ¬(sessions.session? c = some "" ∧
        Memory.lastReported before = none ∧ Memory.Midway before)) ∧
      (¬turn.IsToldApart systemPrompt → turn.session = some "" ∧ turn.systemPrompt = none) := by
  have htells := turn_tells hrecord
  have hknown := turn_session_eq_known hrecord
  refine ⟨htells, ?_, fun hmixed => ?_⟩
  · rw [Agent.Turn.isToldApart_iff htells, hknown, ne_eq, known_eq_blank_iff hrecord]
  · have hblank : turn.session = some "" := by
      rwa [Agent.Turn.isToldApart_iff htells, not_ne_iff] at hmixed
    rw [hblank, if_neg nofun] at htells
    exact ⟨hblank, htells⟩

/-! ### A session without a name in the file -/

/-- Every turn of a run starts a new session or resumes one. -/
def TellsApart (s : Situation) (systemPrompt : Option String) : Prop :=
  ∀ (c : String) (before after : List Occurrence) (i : Nat) (turn : Agent.Turn),
    s.recordOf c = before ++ .worked i c (.asked (.agent (.start turn))) :: after →
      turn.IsToldApart systemPrompt

/-- A file of the store in which a channel has a session without a name. -/
def blankFile : Disk.Bytes := Text.encode "\x7b\n  \"100\": \"\"\n\x7d\n"

/-- The sessions in that file. -/
def blankSessions : SessionTable := Table.empty.set ("100" : String) ("" : String)

/-- The file with a session without a name is read. -/
theorem parse_blankFile : SessionStore.parse blankFile = .ok blankSessions := by
  have htext : blankSessions.fileText.text? = some "\x7b\n  \"100\": \"\"\n\x7d\n" := by decide
  have hbytes : SessionStore.bytes? ⟨⟨"", [".sessions.json"]⟩, blankSessions⟩ =
      some blankFile := by
    rw [SessionStore.bytes?, Text.encodeWide?, htext]
    rfl
  exact SessionStore.parse_bytes? hbytes

/-- Something comes in that is worked on with that session. -/
def blankRun : Situation :=
  let item : Incoming := .reaction
    { emoji := "x", messageId := "1", channelId := "100", channelName := "general", userId := "42" }
  (start { token := "", operator := "42", model := "", channels := [{ name := "general" }] }
    (some "Be brief.") blankSessions).run [.receive item, .work 1, .work 1, .work 1, .work 1]

/-- What happens in the channel of that run. -/
theorem blankRun_record : ∃ (before : List Occurrence) (turn : Agent.Turn),
    blankRun.recordOf "100" = before ++ .worked 1 "100" (.asked (.agent (.start turn))) :: [] ∧
      turn.session = some "" :=
  ⟨[.received _ true _, .worked 1 "100" (.took _), .worked 1 "100" (.said _)], _, rfl, rfl⟩

/-- The turn of that run neither starts a session nor resumes one. -/
theorem not_tellsApart_blankRun :
    SessionStore.parse blankFile = .ok blankSessions ∧ ¬blankRun.TellsApart (some "Be brief.") := by
  obtain ⟨before, turn, hrecord, hsession⟩ := blankRun_record
  refine ⟨parse_blankFile, fun hall => ?_⟩
  rcases hall "100" before [] 1 turn hrecord with ⟨⟨hnone, -⟩, -⟩ | ⟨⟨⟨session, hne, hsome⟩, -⟩, -⟩
  · rw [hsession] at hnone
    cases hnone
  · rw [hsession] at hsome
    exact hne (Option.some.inj hsome).symm

/-- In that run the file gave the channel a session without a name, and nothing changed that. -/
theorem told_apart_iff_blankRun : ∃ (before : List Occurrence) (turn : Agent.Turn),
    blankRun.recordOf "100" = before ++ .worked 1 "100" (.asked (.agent (.start turn))) :: [] ∧
      ¬turn.IsToldApart (some "Be brief.") ∧ blankSessions.session? "100" = some "" ∧
      Memory.lastReported before = none ∧ Memory.Midway before := by
  obtain ⟨before, turn, hrecord, hsession⟩ := blankRun_record
  obtain ⟨htells, hiff, -⟩ := told_apart_iff hrecord
  have hmixed : ¬turn.IsToldApart (some "Be brief.") := by
    rw [Agent.Turn.isToldApart_iff htells, not_ne_iff]
    exact hsession
  rw [hiff, not_not] at hmixed
  refine ⟨before, turn, hrecord, ?_, hmixed⟩
  rw [hiff, not_not]
  exact hmixed

end Situation

end ChatRelay
