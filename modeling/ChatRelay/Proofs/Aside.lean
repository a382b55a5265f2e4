import ChatRelay.Job
import ChatRelay.Proofs.Dialogue

/-!
# What a unit of work asks on the side

A unit of work asks the agent only to start its turns, to go on with them and to close them, and
it asks the engine about a session only before its first turn and when the agent reports one. The
store it leaves to the engine. All the rest is done on the side: fetching and removing files,
carrying out directives and answering questions.
-/

namespace ChatRelay

/-- A request to anybody but the agent and the store. -/
def Outside.Request.IsAside : Outside.Request → Prop
  | .agent _ | .store _ => False
  | _ => True

/-- A request to remove a file. -/
def Outside.Request.IsRemoval : Outside.Request → Prop
  | .disk (.remove _) => True
  | _ => False

/-- A request for a file on the web or on the disk, or for its name. -/
def Outside.Request.IsFile : Outside.Request → Prop
  | .disk _ | .web _ | .freshName => True
  | _ => False

/-- Removing a file is a request for a file. -/
theorem Outside.Request.IsRemoval.isFile {q : Outside.Request} (h : q.IsRemoval) : q.IsFile := by
  match q with
  | .disk (.remove _) => trivial

/-- A request for a file goes neither to the agent nor to the store. -/
theorem Outside.Request.IsFile.isAside {q : Outside.Request} (h : q.IsFile) : q.IsAside := by
  cases q with
  | agent _ | store _ => exact h.elim
  | chat _ | disk _ | web _ | freshName => trivial

/-- A request to the outside, and to neither the agent nor the store. -/
def Work.Request.IsAside : Work.Request → Prop
  | .outside q => q.IsAside
  | _ => False

/-- A request to the chat platform. -/
def Work.Request.IsChat : Work.Request → Prop
  | .outside (.chat _) => True
  | _ => False

/-- A request for a file on the web or on the disk, or for its name. -/
def Work.Request.IsFile : Work.Request → Prop
  | .outside q => q.IsFile
  | _ => False

/-- A request to neither the agent nor the store. The engine may be asked. -/
def Work.Request.IsApart : Work.Request → Prop
  | .outside q => q.IsAside
  | _ => True

/-- What goes to the outside, but not to the agent or the store, goes to neither of them. -/
theorem Work.isApart_of_isAside {q : Request} (h : q.IsAside) : q.IsApart := by
  cases q with
  | outside q => exact h
  | «recall» | report id => trivial

/-- The chat platform is neither the agent nor the store. -/
theorem Work.isAside_of_isChat {q : Request} (h : q.IsChat) : q.IsAside := by
  match q with
  | .outside (.chat _) => trivial

/-- What is asked of the chat platform is no file. -/
theorem Work.not_isFile_of_isChat {q : Request} (h : q.IsChat) : ¬q.IsFile := by
  match q with
  | .outside (.chat _) => exact id

/-- A request for a file goes neither to the agent nor to the store. -/
theorem Work.isApart_of_isFile {q : Request} (h : q.IsFile) : q.IsApart := by
  cases q with
  | outside q => exact h.isAside
  | «recall» | report id => exact h.elim

/-- What asks nobody but the outside, and never the agent or the store, is done on the side. -/
theorem Work.asks_ofOutside {α : Type} {d : Dialogue Outside.service α}
    (h : d.Asks Outside.Request.IsAside) : (Work.ofOutside d).Asks Work.Request.IsAside :=
  Dialogue.asks_via h fun _ hq => ⟨hq, fun _ => trivial⟩

/-- Work on the chat platform asks nothing else. -/
theorem Work.chats_ofChat {α : Type} (d : Dialogue Chat.service α) :
    (Work.ofChat d).Asks Work.Request.IsChat :=
  Dialogue.asks_via d.asks_true fun _ _ => ⟨trivial, fun _ => trivial⟩

/-- The chat platform is asked on the side. -/
theorem Work.asks_ofChat {α : Type} (d : Dialogue Chat.service α) :
    (Work.ofChat d).Asks Work.Request.IsAside :=
  (Work.chats_ofChat d).mono fun _ => Work.isAside_of_isChat

namespace Attachment

/-- Files are removed, and nothing else is asked. -/
theorem removes_cleanup (paths : List String) :
    (cleanup paths).Asks Outside.Request.IsRemoval := by
  induction paths with
  | nil => trivial
  | cons path rest ih =>
    refine ⟨trivial, fun r => ?_⟩
    cases r with
    | error e =>
      cases e with
      | disk refusal => exact ih
      | _ => trivial
    | ok _ => exact ih

/-- Only files are asked for when files are removed. -/
theorem files_cleanup (paths : List String) : (cleanup paths).Asks Outside.Request.IsFile :=
  (removes_cleanup paths).mono fun _ => Outside.Request.IsRemoval.isFile

/-- Giving up the files that were written asks for files only. -/
theorem files_giveUp (written : List String) (e : Failure) :
    (giveUp written e).Asks Outside.Request.IsFile := by
  refine Dialogue.asks_bind (files_cleanup written) fun outcome => ?_
  cases outcome <;> trivial

/-- Fetching files asks for files only. -/
theorem files_fetchAll (directory : Path) (written : List String)
    (attachments : List Incoming.Attachment) :
    (fetchAll directory written attachments).Asks Outside.Request.IsFile := by
  induction attachments generalizing written with
  | nil => trivial
  | cons a rest ih =>
    refine ⟨trivial, fun unique => ?_⟩
    cases unique with
    | error e => exact files_giveUp written e
    | ok unique =>
      refine ⟨trivial, fun contents => ?_⟩
      cases contents with
      | error e => exact files_giveUp written e
      | ok contents =>
        refine ⟨trivial, fun outcome => ?_⟩
        cases outcome with
        | error e => exact files_giveUp written e
        | ok _ => exact ih _

/-- Only files are asked for when attachments are fetched. -/
theorem files_download (directory : String) (attachments : List Incoming.Attachment) :
    (download directory attachments).Asks Outside.Request.IsFile := by
  unfold download
  split
  · trivial
  · refine ⟨trivial, fun outcome => ?_⟩
    cases outcome with
    | error e => trivial
    | ok _ => exact files_fetchAll _ _ _

/-- Files are removed on the side. -/
theorem asks_cleanup (paths : List String) : (cleanup paths).Asks Outside.Request.IsAside :=
  (files_cleanup paths).mono fun _ => Outside.Request.IsFile.isAside

/-- A download is done on the side. -/
theorem asks_download (directory : String) (attachments : List Incoming.Attachment) :
    (download directory attachments).Asks Outside.Request.IsAside :=
  (files_download directory attachments).mono fun _ => Outside.Request.IsFile.isAside

end Attachment

namespace Conversation

/-- Directives are carried out on the chat platform. -/
theorem chats_carryOut (place : Place) (text : String) :
    (carryOut place text).Asks Work.Request.IsChat := by
  refine Dialogue.asks_bind (Dialogue.asks_notes _) fun _ => ?_
  cases (Response.read text).directives with
  | error refusal => trivial
  | ok ds => exact Dialogue.asks_bind (Work.chats_ofChat _) fun _ => trivial

/-- What an event says, apart from the session that it reports, is heeded on the chat platform. -/
theorem chats_heed (place : Place) (e : Agent.Event) :
    (heed place e).Asks Work.Request.IsChat := by
  unfold heed
  split
  · trivial
  · split <;> trivial
  · split
    · trivial
    · exact chats_carryOut place e.text

/-- What an event says, apart from the session that it reports, is heeded on the side. -/
theorem asks_heed (place : Place) (e : Agent.Event) :
    (heed place e).Asks Work.Request.IsAside :=
  (chats_heed place e).mono fun _ => Work.isAside_of_isChat

/-- A session is reported to the engine. -/
theorem asks_reportSession {p : Work.Request → Prop} (hp : ∀ session, p (.report session))
    (known : Option String) (e : Agent.Event) : (reportSession known e).Asks p := by
  unfold reportSession
  split
  · trivial
  · split
    · trivial
    · exact ⟨hp _, fun _ => trivial⟩

end Conversation

end ChatRelay
