import ChatRelay.Proofs.Exchange
import ChatRelay.Proofs.Fetching
import ChatRelay.Proofs.Way

/-!
# How long fetched files live

The files that are fetched for a message are there for as long as the unit of work needs them, and
no longer. `Job.Reached` lists where a unit of work on a message may have come to: fetching files,
holding the conversation, removing the files, or its end. A conversation asks for no files, so they
are untouched until the unit of work removes them.

The main statement is `Job.files_live_with_work`.
-/

namespace ChatRelay

open Dialogue (Event)
open Disk (Files Shared)
open Work (diskCall? started? Refuses Writes refuses_append)
open Attachment (Fetch Kept Undisturbed opening)

/-! ## Conversations ask for no files -/

namespace Work

/-- Where no file is asked for, the disk is asked nothing. -/
theorem diskCalls_of_fileless {os : List (Event service)}
    (h : ∀ q ∈ os.filterMap Event.request?, ¬q.IsFile) : os.filterMap diskCall? = [] := by
  refine List.filterMap_eq_nil_iff.mpr fun o ho => ?_
  unfold diskCall?
  split
  · exact absurd trivial (h _ (List.mem_filterMap.mpr ⟨_, ho, rfl⟩))
  · rfl

/-- Where no file is asked for, no request for one is refused. -/
theorem not_refuses_of_fileless {os : List (Event service)}
    (h : ∀ q ∈ os.filterMap Event.request?, ¬q.IsFile) (e : Failure) : ¬Refuses os e :=
  not_refuses_of_asks (fun q hq => not_isFetch_of_not_isFile (h q hq)) e

end Work

namespace Conversation

variable {c c' : Conversation} {os : List (Event Work.service)}

/-- What is left of the work asks for no file. -/
def IsFileless (c : Conversation) : Prop :=
  match c.phase with
  | .reacting work => work.Asks fun q : Work.Request => ¬q.IsFile
  | .answering work => work.Asks fun q : Work.Request => ¬q.IsFile
  | _ => True

/-- The work on an event asks for no file. -/
theorem fileless_react (place : Place) (known : Option String) (e : Agent.Event) :
    (react place known e).Asks fun q : Work.Request => ¬q.IsFile := by
  refine Dialogue.asks_bind (asks_reportSession (fun _ => id) known e) fun reported => ?_
  cases reported with
  | error failure => trivial
  | ok _ => exact (chats_heed place e).mono fun _ => Work.not_isFile_of_isChat

/-- No step of a conversation asks for a file. -/
theorem fileless_step (c : Conversation) (h : c.IsFileless) :
    c.step.Stays (fun q : Work.Request => ¬q.IsFile) IsFileless := by
  obtain ⟨setup, session, turnCount, depth, rounds, phase⟩ := c
  cases phase with
  | prompting prompt =>
    simp only [step, prompted]
    split <;> trivial
  | starting prompt =>
    refine ⟨id, fun r => ?_⟩
    cases r <;> trivial
  | listening =>
    refine ⟨id, fun r => ?_⟩
    rcases r with _ | _ | e
    · trivial
    · trivial
    · exact fileless_react setup.place session e
  | reacting work =>
    refine (Step.stays_dialogue work h).inside (fun _ hwork => hwork) fun verdict => ?_
    rcases verdict with _ | _ | question <;> trivial
  | closing verdict =>
    refine ⟨id, fun r => ?_⟩
    rcases r with _ | _
    · trivial
    · rcases verdict with _ | _ | question <;> trivial
  | asked question =>
    simp only [step, questioned]
    split
    · trivial
    · exact (Work.chats_ofChat _).mono fun _ => Work.not_isFile_of_isChat
  | answering work =>
    exact (Step.stays_dialogue work h).inside (fun _ hwork => hwork) fun prompt => trivial
  | «over» outcome => trivial

/-- A conversation that begins with a prompt asks for no file on its way. -/
theorem fileless_of_goes {prompt : String} (h : Step.Goes step c os c')
    (hphase : c.phase = .prompting prompt) : ∀ q ∈ os.filterMap Event.request?, ¬q.IsFile := by
  refine (h.stays fileless_step ?_).2
  rw [IsFileless, hphase]
  trivial

/-- The first turn of a conversation is started with its first prompt. -/
theorem prompt_of_first_turn {prompt : String} {turn : Agent.Turn}
    {next : Work.service.Reply (.outside (.agent (.start turn))) → Conversation}
    (h : Step.Goes step c os c') (hphase : c.phase = .prompting prompt)
    (hasks : c'.step = .ask (.outside (.agent (.start turn))) next)
    (hfirst : os.filterMap started? = []) : turn.prompt = prompt := by
  have hstep : c.step = c.prompted prompt := by rw [step, hphase]
  rw [prompted] at hstep
  split at hstep
  · rcases h.of_say hstep with ⟨-, rfl⟩ | ⟨os', -, hover⟩
    · rw [hstep] at hasks
      cases hasks
    · obtain ⟨-, rfl⟩ := hover.of_finished rfl
      cases hasks
  · rcases h.of_say hstep with ⟨-, rfl⟩ | ⟨os', rfl, hstarting⟩
    · rw [hstep] at hasks
      cases hasks
    · rcases hstarting.of_ask rfl with ⟨-, rfl⟩ | ⟨reply, os'', rfl, -⟩
      · cases hasks
        rfl
      · cases hfirst

/-- A prompt starts a turn while fewer than the most turns were started. -/
theorem step_of_prompting {prompt : String} (hphase : c.phase = .prompting prompt)
    (hturns : c.rounds < c.setup.maxTurns) :
    c.step = .say ("[AgentSession] session: " ++ c.session.getD "NEW")
        { c with
          turnCount := c.turnCount + 1, rounds := c.rounds + 1, phase := .starting prompt } := by
  rw [step, hphase]
  exact if_neg (Int.not_le.mpr hturns)

end Conversation

/-! ## Where a unit of work has come to -/

namespace Job

/-- The prompt of a unit of work on a message. -/
def promptFor (j : Job) (m : Incoming.Message) (files : List String) : String :=
  Prompt.message m.messageId j.work.profile.skill m.content m.channelId files

/-- The attachments of a message are downloaded. -/
def downloading (j : Job) (m : Incoming.Message) :
    Dialogue Work.service (Except Failure (List String)) :=
  Work.ofOutside (Attachment.download j.settings.temporaryDirectory m.attachments)

/-- What happens between fetching the files and removing them, and how it ends. -/
inductive Held (j : Job) (prompt : String) :
    List (Event Work.service) → Except Failure Unit → Prop where
  | forgotten (e : Failure) : Held j prompt [.asked .recall (.error e)] (.error e)
  | talked (session : Option String) {os : List (Event Work.service)}
      {outcome : Except Failure Unit}
      (runs : Step.Runs Conversation.step (j.conversation prompt session) os outcome) :
      Held j prompt (.asked .recall (.ok session) :: os) outcome

/-- Where a unit of work on a message may have come to, and the record until then. -/
inductive Reached (j : Job) (m : Incoming.Message) : List (Event Work.service) → Job → Prop where
  | fetching {os : List (Event Work.service)}
      {work : Dialogue Work.service (Except Failure (List String))}
      (goes : Step.Goes Dialogue.step (j.downloading m) os work) :
      Reached j m os { j with phase := .fetching m work }
  | failed {os : List (Event Work.service)} {e : Failure}
      (failed : (j.downloading m).Plays os (.error e)) :
      Reached j m os { j with phase := .over (.error e) }
  | recalling {os : List (Event Work.service)} {files : List String}
      (downloaded : (j.downloading m).Plays os (.ok files)) :
      Reached j m os { j with files, phase := .recalling (j.promptFor m files) }
  | talking {first second : List (Event Work.service)} {files : List String}
      {session : Option String} {c : Conversation}
      (downloaded : (j.downloading m).Plays first (.ok files))
      (goes : Step.Goes Conversation.step (j.conversation (j.promptFor m files) session) second c) :
      Reached j m (first ++ .asked .recall (.ok session) :: second)
        { j with files, phase := .talking c }
  | tidying {first second third : List (Event Work.service)} {files : List String}
      {outcome : Except Failure Unit} {work : Dialogue Work.service (Except Failure Unit)}
      (downloaded : (j.downloading m).Plays first (.ok files))
      (held : Held j (j.promptFor m files) second outcome)
      (goes : Step.Goes Dialogue.step (Work.ofOutside (Attachment.cleanup files)) third work) :
      Reached j m (first ++ (second ++ third)) { j with files, phase := .tidying outcome work }
  | finished {first second third : List (Event Work.service)} {files : List String}
      {outcome cleaned : Except Failure Unit}
      (downloaded : (j.downloading m).Plays first (.ok files))
      (held : Held j (j.promptFor m files) second outcome)
      (cleaning : (Work.ofOutside (Attachment.cleanup files)).Plays third cleaned) :
      Reached j m (first ++ (second ++ third)) ({ j with files }.tidied outcome cleaned)

variable {j k : Job} {m : Incoming.Message} {os : List (Event Work.service)}

/-- What is reached while the files are being removed. -/
theorem reached_of_talked {first second : List (Event Work.service)} {files : List String}
    {outcome : Except Failure Unit} (downloaded : (j.downloading m).Plays first (.ok files))
    (held : Held j (j.promptFor m files) second outcome)
    (h : Step.Goes step ({ j with files }.talked outcome) os k) :
    Reached j m (first ++ (second ++ os)) k := by
  rcases Step.Goes.inside (fun work => ({ j with files, phase := .tidying outcome work } : Job))
    ({ j with files }.tidied outcome) (fun _ => rfl) h with
    ⟨work, htidying, rfl⟩ | ⟨os', rest, cleaned, rfl, hruns, hover⟩
  · exact .tidying downloaded held htidying
  · have hfinished : ∃ r, step ({ j with files }.tidied outcome cleaned) = .finished r := by
      cases cleaned with
      | error e => exact ⟨_, rfl⟩
      | ok _ => exact ⟨_, rfl⟩
    obtain ⟨r, hr⟩ := hfinished
    obtain ⟨rfl, rfl⟩ := hover.of_finished hr
    rw [List.append_nil]
    exact .finished downloaded held (Step.runs_dialogue_iff.mp hruns)

/-- A unit of work on a message that begins to fetch files reaches one of these. -/
theorem reached_of_goes (hphase : j.phase = .fetching m (j.downloading m))
    (h : Step.Goes step j os k) : Reached j m os k := by
  have hj : j = { j with phase := .fetching m (j.downloading m) } := by rw [← hphase]
  rw [hj] at h
  rcases Step.Goes.inside (fun work => ({ j with phase := .fetching m work } : Job))
    (j.fetched m) (fun _ => rfl) h with
    ⟨work, hfetching, rfl⟩ | ⟨first, rest, r, rfl, hruns, hfetched⟩
  · exact .fetching hfetching
  · have hplays := Step.runs_dialogue_iff.mp hruns
    cases r with
    | error e =>
      obtain ⟨rfl, rfl⟩ := hfetched.of_finished rfl
      rw [List.append_nil]
      exact .failed hplays
    | ok files =>
      rcases hfetched.of_ask rfl with ⟨rfl, rfl⟩ | ⟨reply, rest, rfl, hrecalled⟩
      · rw [List.append_nil]
        exact .recalling hplays
      · cases reply with
        | error e => exact reached_of_talked hplays (.forgotten e) hrecalled
        | ok session =>
          rcases Step.Goes.inside (fun c => ({ j with files, phase := .talking c } : Job))
            ({ j with files }.talked) (fun _ => rfl) hrecalled with
            ⟨c, htalking, rfl⟩ | ⟨second, rest, outcome, rfl, hruns, htalked⟩
          · exact .talking hplays htalking
          · exact reached_of_talked hplays (.talked session hruns) htalked

/-- Fetching files starts no turn. -/
theorem asks_downloading (j : Job) (m : Incoming.Message) :
    (j.downloading m).Asks Work.Request.IsFile :=
  Dialogue.asks_via (Attachment.files_download _ _) fun _ hq => ⟨hq, fun _ => trivial⟩

/-- Removing files asks for nothing but files. -/
theorem asks_cleaning (files : List String) :
    (Work.ofOutside (Attachment.cleanup files)).Asks Work.Request.IsFile :=
  Dialogue.asks_via (Attachment.files_cleanup files) fun _ hq => ⟨hq, fun _ => trivial⟩

/-- A session is recalled, and no file is asked for after that. -/
theorem fileless_recalled (session : Option String)
    (h : ∀ q ∈ os.filterMap Event.request?, ¬Work.Request.IsFile q) :
    ∀ q ∈ (Event.asked (P := Work.service) .recall (.ok session) :: os).filterMap Event.request?,
      ¬Work.Request.IsFile q :=
  List.forall_mem_cons.mpr ⟨id, h⟩

/-- Between fetching and removing the files no file is asked for. -/
theorem Held.fileless {prompt : String} {outcome : Except Failure Unit}
    (h : Held j prompt os outcome) : ∀ q ∈ os.filterMap Event.request?, ¬q.IsFile := by
  cases h with
  | forgotten e => exact List.forall_mem_singleton.mpr id
  | talked session runs =>
    obtain ⟨c, hgoes, -⟩ := Step.runs_iff_goes.mp runs
    exact fileless_recalled session (Conversation.fileless_of_goes hgoes rfl)

/-! ## A file that cannot be fetched -/

/-- Where a file could not be fetched, the files are still being fetched, or the work is over. -/
theorem Reached.of_refuses {e : Failure} (h : Reached j m os k) (hrefuses : Refuses os e) :
    (∃ work, Step.Goes Dialogue.step (j.downloading m) os work ∧
      k = { j with phase := .fetching m work }) ∨
    ∃ e', (j.downloading m).Plays os (.error e') ∧ k = { j with phase := .over (.error e') } := by
  have hdownloaded : ∀ {first : List (Event Work.service)} {files : List String},
      (j.downloading m).Plays first (.ok files) → ¬Refuses first e :=
    fun hplays => Attachment.not_refuses_of_downloaded hplays e
  cases h with
  | fetching goes => exact .inl ⟨_, goes, rfl⟩
  | failed failed => exact .inr ⟨_, failed, rfl⟩
  | recalling downloaded => exact absurd hrefuses (hdownloaded downloaded)
  | @talking _ _ _ session _ downloaded goes =>
    rcases refuses_append.mp hrefuses with hfirst | hsecond
    · exact absurd hfirst (hdownloaded downloaded)
    · have hfileless := fileless_recalled session (Conversation.fileless_of_goes goes rfl)
      exact absurd hsecond (Work.not_refuses_of_fileless hfileless e)
  | tidying downloaded held goes =>
    rcases refuses_append.mp hrefuses with hfirst | hrest
    · exact absurd hfirst (hdownloaded downloaded)
    · rcases refuses_append.mp hrest with hsecond | hthird
      · exact absurd hsecond (Work.not_refuses_of_fileless held.fileless e)
      · have hasks := (goes.stays Step.stays_dialogue (Attachment.fetchless_cleanup _)).2
        exact absurd hthird (Work.not_refuses_of_asks hasks e)
  | finished downloaded held cleaning =>
    rcases refuses_append.mp hrefuses with hfirst | hrest
    · exact absurd hfirst (hdownloaded downloaded)
    · rcases refuses_append.mp hrest with hsecond | hthird
      · exact absurd hsecond (Work.not_refuses_of_fileless held.fileless e)
      · exact absurd hthird (Attachment.not_refuses_cleaning cleaning e)

/-- Where a file could not be fetched, no turn was started, and the work finishes whatever the
replies are. -/
theorem Reached.finishes_of_refuses {e : Failure} (h : Reached j m os k)
    (hrefuses : Refuses os e) : os.filterMap started? = [] ∧ Step.Finishes step k := by
  have hnone : (∀ q ∈ os.filterMap Event.request?, q.IsFile) → os.filterMap started? = [] :=
    fun hasks => (Work.eq_nil_of_isApart fun q hq => Work.isApart_of_isFile (hasks q hq)).1
  rcases h.of_refuses hrefuses with ⟨work, hgoes, rfl⟩ | ⟨e', hplays, rfl⟩
  · refine ⟨hnone (hgoes.stays Step.stays_dialogue (asks_downloading j m)).2, ?_⟩
    refine Step.Finishes.inside (fun work => ({ j with phase := .fetching m work } : Job))
      (j.fetched m) (fun _ => rfl) fun rest r hrest => ?_
    -- All that is downloaded from here on was not refused before.
    have hplays : (j.downloading m).Plays (os ++ rest) r :=
      Step.runs_dialogue_iff.mp (hgoes.runs (Step.runs_dialogue_iff.mpr hrest))
    cases r with
    | error e' => exact .finished rfl
    | ok files =>
      have hnot := Attachment.not_refuses_of_downloaded hplays e
      exact absurd (refuses_append.mpr (.inl hrefuses)) hnot
  · exact ⟨hnone (hplays.asks (asks_downloading j m)), .finished rfl⟩

/-! ## The files at the start of a turn, and at the end -/

/-- Between fetching and removing the files they are untouched. -/
theorem kept_of_fileless {own : String → Prop} {directory : Path} {xs : List Fetch} {f f' : Files}
    (h : Kept own directory xs f) (hasks : ∀ q ∈ os.filterMap Event.request?, ¬q.IsFile)
    (hfiles : Shared own f (os.filterMap diskCall?) f') : Kept own directory xs f' := by
  rw [Work.diskCalls_of_fileless hasks] at hfiles
  exact h.congr hfiles.of_nil

/-- What is on the disk for a message: a file for each attachment in order, apart from the others,
with the contents that were read for it and with the extension of the attached file. -/
structure Stocked (directory : String) (m : Incoming.Message) (os : List (Event Work.service))
    (f : Files) (xs : List Fetch) : Prop where
  attachments : xs.map Fetch.attachment = m.attachments
  record : opening (Path.ofText directory) m.attachments ++
    xs.flatMap (Fetch.record (Path.ofText directory)) <+: os
  apart : (xs.map (Fetch.path (Path.ofText directory))).Nodup
  there : ∀ x ∈ xs, f (x.path (Path.ofText directory)) = some x.contents
  extension : ∀ x ∈ xs, Path.extensionOf (x.path (Path.ofText directory)) =
    Attachment.extension x.attachment.fileName

variable {own : String → Prop} {f f' : Files}

/-- Where a turn is about to be started, the files are there, and the prompt of the first turn lists
them. -/
theorem Reached.stocked {turn : Agent.Turn}
    {next : Work.service.Reply (.outside (.agent (.start turn))) → Job} (h : Reached j m os k)
    (hasks : k.step = .ask (.outside (.agent (.start turn))) next)
    (hfiles : Undisturbed own os f f') :
    ∃ xs, Stocked j.settings.temporaryDirectory m os f' xs ∧
      (os.filterMap started? = [] → turn.prompt = j.promptFor m
        (xs.map (Fetch.path (Path.ofText j.settings.temporaryDirectory)))) := by
  -- While files are fetched or removed no turn is started, so the conversation is on.
  have hfile : ∀ {α : Type} {work : Dialogue Work.service α} {wrap : Dialogue Work.service α → Job}
      {after : α → Job}, work.Asks Work.Request.IsFile →
      (work.step.inside wrap after : Step Work.service Job (Except Failure Unit)) ≠
        .ask (.outside (.agent (.start turn))) next := by
    intro α work wrap after hwork heq
    obtain ⟨next', hwork', -⟩ := Step.ask_of_inside heq
    have hstays := Step.stays_dialogue work hwork
    rw [hwork'] at hstays
    exact hstays.1
  cases h with
  | fetching goes =>
    exact absurd hasks (hfile (goes.stays Step.stays_dialogue (asks_downloading j m)).1)
  | failed failed => cases hasks
  | recalling downloaded => cases hasks
  | tidying downloaded held goes =>
    exact absurd hasks (hfile (goes.stays Step.stays_dialogue (asks_cleaning _)).1)
  | @finished _ _ _ _ _ cleaned =>
    cases cleaned with
    | error e => cases hasks
    | ok _ => cases hasks
  | @talking first second files session c downloaded goes =>
    obtain ⟨f₁, hfirst, hsecond⟩ := hfiles.split
    obtain ⟨xs, hxs, rfl, rfl, hkept, hplain⟩ := Attachment.kept_of_downloaded downloaded hfirst
    have hfileless := fileless_recalled session (Conversation.fileless_of_goes goes rfl)
    have hkept' := kept_of_fileless hkept hfileless hsecond
    refine ⟨xs, ⟨hxs, List.prefix_append _ _, hkept'.apart, hkept'.there,
      fun x hx => Fetch.extensionOf_path (hplain x hx)⟩, fun hnone => ?_⟩
    obtain ⟨next', hstart, -⟩ := Step.ask_of_inside hasks
    rw [List.filterMap_append, List.append_eq_nil_iff] at hnone
    exact Conversation.prompt_of_first_turn goes rfl hstart hnone.2

/-- Where the work is over, none of the files is left. -/
theorem Reached.emptied {r : Except Failure Unit} (h : Reached j m os k)
    (hover : k.step = .finished r) (hfiles : Undisturbed own os f f') :
    Kept own (Path.ofText j.settings.temporaryDirectory) [] f' := by
  cases h with
  | fetching goes => exact absurd hover (Step.inside_ne_finished _ _ _ r)
  | failed failed => exact (Attachment.kept_of_failed failed hfiles).1
  | recalling downloaded => cases hover
  | talking downloaded goes => exact absurd hover (Step.inside_ne_finished _ _ _ r)
  | tidying downloaded held goes => exact absurd hover (Step.inside_ne_finished _ _ _ r)
  | finished downloaded held cleaning =>
    obtain ⟨f₁, hfirst, hrest⟩ := hfiles.split
    obtain ⟨xs, -, rfl, -, hkept, -⟩ := Attachment.kept_of_downloaded downloaded hfirst
    rw [List.filterMap_append] at hrest
    obtain ⟨f₂, hsecond, hthird⟩ := hrest.split
    exact ((kept_of_fileless hkept held.fileless hsecond).cleaned cleaning hthird).2

/-- What is on record when the first turn is about to be started: the files were fetched, and the
session is recalled. -/
def untilFirstTurn (directory : String) (xs : List Fetch) (session : Option String) :
    List (Event Work.service) :=
  opening (Path.ofText directory) (xs.map Fetch.attachment) ++
    xs.flatMap (Fetch.record (Path.ofText directory)) ++
    [.asked .recall (.ok session), .said ("[AgentSession] session: " ++ session.getD "NEW")]

/-- Where all attachments were fetched and the session is recalled, a turn is about to be started
whose prompt lists the files. -/
theorem starts_of_fetched {xs : List Fetch} (hphase : j.phase = .fetching m (j.downloading m))
    (hxs : xs.map Fetch.attachment = m.attachments) (hturns : 0 < j.settings.maxTurns)
    (session : Option String) :
    ∃ k turn next, Step.Goes step j (untilFirstTurn j.settings.temporaryDirectory xs session) k ∧
      k.step = .ask (.outside (.agent (.start turn))) next ∧
      turn.prompt = j.promptFor m
        (xs.map (Fetch.path (Path.ofText j.settings.temporaryDirectory))) := by
  have hdownloaded := Attachment.plays_download j.settings.temporaryDirectory xs
  have hdownloading : Work.ofOutside (Attachment.download j.settings.temporaryDirectory
      (xs.map Fetch.attachment)) = j.downloading m := by rw [hxs, downloading]
  rw [hdownloading] at hdownloaded
  generalize xs.map (Fetch.path (Path.ofText j.settings.temporaryDirectory)) = files
    at hdownloaded ⊢
  have hprompting := Conversation.step_of_prompting
    (c := j.conversation (j.promptFor m files) session) rfl hturns
  let talk (c : Conversation) : Job := { j with files, phase := .talking c }
  have htalking (c : Conversation) :
      (talk c).step = c.step.inside talk ({ j with files }.talked) := rfl
  have htold : Step.Goes step (talk (j.conversation (j.promptFor m files) session))
      [.said ("[AgentSession] session: " ++ session.getD "NEW")] _ :=
    .say ((htalking _).trans (congrArg (Step.inside talk _) hprompting)) (.here (talk _))
  have hrecalled : Step.Goes step (j.fetched m (.ok files)) [.asked .recall (.ok session),
      .said ("[AgentSession] session: " ++ session.getD "NEW")] _ :=
    .ask (P := Work.service) (q := .recall) rfl (.ok session) htold
  have hgoes := Step.Goes.after_inside (fun work => ({ j with phase := .fetching m work } : Job))
    (j.fetched m) (fun _ => rfl) (Step.runs_dialogue_iff.mpr hdownloaded) hrecalled
  rw [← hphase] at hgoes
  exact ⟨_, _, _, hgoes, rfl, rfl⟩

/-- **Fetched files live as long as the unit of work.** For a message with any attachments,
whatever all requests are replied, as long as nobody else disturbs the files:
* where all attachments were fetched and the session is recalled, a turn is about to be started
  whose prompt lists the files;
* where a turn of the agent is about to be started, the first one or a later one, every attachment
  has a file of its own with its contents, and the prompt of the first turn lists these files;
* where a file could not be fetched, no turn was started, the work finishes whatever the replies
  are, and it fails with that failure;
* where the work has finished, be it with a failure or not, none of the files that were written is
  left. -/
theorem files_live_with_work (settings : EngineSettings) (systemPrompt : Option String)
    (profile : ChannelProfile) (m : Incoming.Message) :
    let begun := begin settings systemPrompt ⟨.message m, profile⟩
    (∀ (xs : List Fetch) session, xs.map Fetch.attachment = m.attachments → 0 < settings.maxTurns →
      ∃ k turn next, Step.Goes step begun
          (untilFirstTurn settings.temporaryDirectory xs session) k ∧
        k.step = .ask (.outside (.agent (.start turn))) next ∧
        turn.prompt = Prompt.message m.messageId profile.skill m.content m.channelId
          (xs.map (Fetch.path (Path.ofText settings.temporaryDirectory)))) ∧
    (∀ own os k turn next f f', Step.Goes step begun os k →
      k.step = .ask (.outside (.agent (.start turn))) next → Undisturbed own os f f' →
      ∃ xs, Stocked settings.temporaryDirectory m os f' xs ∧
        (os.filterMap started? = [] → turn.prompt =
          Prompt.message m.messageId profile.skill m.content m.channelId
            (xs.map (Fetch.path (Path.ofText settings.temporaryDirectory))))) ∧
    (∀ os k e, Step.Goes step begun os k → Refuses os e →
      os.filterMap started? = [] ∧ Step.Finishes step k) ∧
    (∀ own os r e f f', Step.Runs step begun os r → Refuses os e → Undisturbed own os f f' →
      r = .error e) ∧
    ∀ own os r f f', Step.Runs step begun os r → Undisturbed own os f f' →
      ∀ path, Writes os path → f' path = none := by
  intro begun
  have hreached : ∀ {os k}, Step.Goes step begun os k → Reached begun m os k :=
    fun hgoes => reached_of_goes rfl hgoes
  refine ⟨fun xs session hxs hturns => starts_of_fetched rfl hxs hturns session,
    fun own os k turn next f f' hgoes hasks hfiles => (hreached hgoes).stocked hasks hfiles,
    fun os k e hgoes hrefuses => (hreached hgoes).finishes_of_refuses hrefuses, ?_, ?_⟩
  -- A request can be refused only before the conversation, and then the work is over.
  · intro own os r e f f' hruns hrefuses hfiles
    obtain ⟨k, hgoes, hover⟩ := Step.runs_iff_goes.mp hruns
    rcases (hreached hgoes).of_refuses hrefuses with ⟨rest, -, rfl⟩ | ⟨e', hplays, rfl⟩
    · exact absurd hover (Step.inside_ne_finished _ _ _ r)
    · cases hover
      rw [(Attachment.kept_of_failed hplays hfiles).2 e hrefuses]
  · intro own os r f f' hruns hfiles path hwrites
    obtain ⟨k, hgoes, hover⟩ := Step.runs_iff_goes.mp hruns
    exact ((hreached hgoes).emptied hover hfiles).only path (hfiles.owned path hwrites) nofun

/-- A message with a picture. -/
def pictureMessage : Incoming.Message :=
  { messageId := "1", channelId := "7", channelName := "diary", authorId := "5", content := "look"
    attachments := [⟨"https://cdn/a.png", "a.png"⟩] }

/-- The picture, as it is fetched. -/
def picture : Fetch := ⟨⟨"https://cdn/a.png", "a.png"⟩, "6f1c", [0x89]⟩

/-- The directory for the picture is made. -/
def pictureOpening : Event Work.service :=
  .asked (.outside (.disk (.makeDirectory (Path.ofText ".tmp").toText))) (.ok ())

/-- The turn that the agent is shown the picture in. -/
def pictureTurn : Agent.Turn :=
  { prompt := Prompt.message "1" "" "look" "7" [picture.path (Path.ofText ".tmp")]
    session := none, workdir := ".", systemPrompt := none }

/-- The picture is fetched, and the turn is about to be started. -/
def pictureFetched : List (Event Work.service) :=
  [pictureOpening, picture.named, picture.read, picture.write (Path.ofText ".tmp") (.ok ()),
    .asked .recall (.ok none), .said "[AgentSession] session: NEW"]

/-- The agent does nothing in its turn, and the picture is removed. -/
def pictureRemoved : List (Event Work.service) :=
  [Work.starts pictureTurn, Work.hears none, Work.closes,
    .asked (.outside (.disk (.remove (picture.path (Path.ofText ".tmp"))))) (.ok ())]

/-- The picture cannot be read. -/
def pictureRefused (e : Failure) : List (Event Work.service) :=
  [pictureOpening, picture.named, .asked (.outside (.web "https://cdn/a.png")) (.error e)]

/-- The work on the message, when it is begun. -/
def pictureBegun : Job := begin {} none ⟨.message pictureMessage, { name := "diary" }⟩

/-- The work on the message, when the picture is fetched and the turn is about to be started. -/
def pictureShown : Job :=
  { pictureBegun with
    files := [picture.path (Path.ofText ".tmp")]
    phase := .talking { pictureBegun.conversation pictureTurn.prompt none with
      turnCount := 1, rounds := 1, phase := .starting pictureTurn.prompt } }

/-- The picture is fetched before its turn. -/
theorem goes_pictureFetched : Step.Goes step pictureBegun pictureFetched pictureShown := by
  refine .ask rfl _ (.ask rfl _ (.ask rfl _ (.ask rfl _ (.silent rfl ?_))))
  exact .ask rfl _ (.say rfl (.here _))

/-- The picture is removed behind its turn. -/
theorem runs_pictureRemoved : Step.Runs step pictureShown pictureRemoved (.ok ()) := by
  refine .ask rfl _ (.ask rfl _ (.ask rfl _ (.silent rfl ?_)))
  exact .ask rfl _ (.silent rfl (.finished rfl))

/-- The picture is there when it is shown to the agent, and it is gone in the end. Where it cannot
be read no turn is started, and the work fails. -/
theorem files_live_with_work_picture :
    let begun := begin {} none ⟨.message pictureMessage, { name := "diary" }⟩
    let whole := pictureFetched ++ pictureRemoved
    let missing : Failure := .service "ClientResponseError" "404"
    untilFirstTurn ".tmp" [picture] none = pictureFetched ∧
    (∃ k turn next f, Step.Goes step begun pictureFetched k ∧
      k.step = .ask (.outside (.agent (.start turn))) next ∧
      turn.prompt = pictureTurn.prompt ∧
      Undisturbed (Writes pictureFetched) pictureFetched (fun _ => none) f ∧
      ∃ xs, Stocked ".tmp" pictureMessage pictureFetched f xs) ∧
    (∃ f, Step.Runs step begun whole (.ok ()) ∧ Undisturbed (Writes whole) whole (fun _ => none) f ∧
      f (picture.path (Path.ofText ".tmp")) = none) ∧
    Refuses (pictureRefused missing) missing ∧
      Step.Runs step begun (pictureRefused missing) (.error missing) ∧
      (pictureRefused missing).filterMap started? = [] := by
  intro begun whole missing
  obtain ⟨hstarts, hstart, hrefused, -, hover⟩ :=
    files_live_with_work {} none { name := "diary" } pictureMessage
  have hplain : ∀ unique ∈ ["6f1c"], Attachment.IsPlain unique := by
    have hchars : "6f1c".toList = ['6', 'f', '1', 'c'] := rfl
    refine List.forall_mem_singleton.mpr ⟨by decide, ?_⟩
    rw [hchars]
    simp
  have hruns : Step.Runs step begun whole (.ok ()) := goes_pictureFetched.runs runs_pictureRemoved
  have hrefusal : Refuses (pictureRefused missing) missing :=
    ⟨.outside (.web "https://cdn/a.png"), trivial, List.mem_cons_of_mem _
      (List.mem_cons_of_mem _ (List.mem_singleton.mpr rfl))⟩
  have hfailed : Step.Runs step begun (pictureRefused missing) (.error missing) :=
    .ask rfl _ (.ask rfl _ (.ask rfl _ (.silent rfl (.finished rfl))))
  have hfetched : Undisturbed (Writes pictureFetched) pictureFetched (fun _ => none) _ :=
    ⟨fun _ h => h, fun _ _ => rfl, List.nodup_singleton _, hplain,
      .granted (fun _ _ => rfl) (.granted (fun _ _ => rfl) (.nil fun _ _ => rfl))⟩
  have hall : Undisturbed (Writes whole) whole (fun _ => none) _ :=
    ⟨fun _ h => h, fun _ _ => rfl, List.nodup_singleton _, hplain,
      .granted (fun _ _ => rfl) (.granted (fun _ _ => rfl) (.granted (fun _ _ => rfl)
        (.nil fun _ _ => rfl)))⟩
  have hwritten : Writes whole (picture.path (Path.ofText ".tmp")) :=
    ⟨picture.contents, List.mem_cons_of_mem _ (List.mem_cons_of_mem _ (List.mem_cons_of_mem _
      List.mem_cons_self))⟩
  obtain ⟨started, turn, next, hstarted, hasks, hprompt⟩ :=
    hstarts [picture] none rfl (by decide)
  obtain ⟨xs, hstocked, -⟩ := hstart _ _ _ _ _ _ _ hstarted hasks hfetched
  obtain ⟨k', hgoes', -⟩ := Step.runs_iff_goes.mp hfailed
  exact ⟨rfl, ⟨started, turn, next, _, hstarted, hasks, hprompt, hfetched, xs, hstocked⟩,
    ⟨_, hruns, hall, hover _ _ _ _ _ hruns hall _ hwritten⟩, hrefusal, hfailed,
    (hrefused _ _ _ hgoes' hrefusal).1⟩

end Job

end ChatRelay
