import ChatRelay.Disk.Tree
import ChatRelay.Proofs.Containment
import ChatRelay.Proofs.Restart
import Mathlib.Data.Set.List

/-!
# What stands in the way of saving

A disk refuses what it cannot do, and saving the sessions puts up with that: the refusal is logged
and not passed on. `Disk.lawful` is what is known of the replies of every disk: there is nothing but
refusals, and a path with the character NUL, which no disk has.

There are three obstacles that no disk refuses: a path without a last name, which has no temporary
file beside it, a path with NUL, and a session that is no text of characters, which cannot be
encoded. `SessionStore.obstacle?` is the first of them. They are passed on, and nothing else is
(`SessionStore.ends_of_save`, `SessionStore.plays_of_obstacle`). No change that the relay makes puts
an obstacle there (`SessionStore.obstacle?_remember`), so it is the setting of the path and the file
that the store was opened on that decide (`SessionStore.obstacle?_eq_none_iff`).
-/

namespace ChatRelay

open Dialogue (Event)

/-! ## Lawful disks -/

namespace Disk

/-- Whether a path of a request holds the character NUL. -/
def Request.holdsNul (q : Request) : Bool :=
  (Tree.pathsOf q).any fun path => path.toList.contains '\x00'

/-- The reply to a request about a path with NUL: nothing is there, and nothing else can be done. -/
def Request.nulReply : (q : Request) → service.Reply q
  | .isThere _ => .ok false
  | _ => .error Tree.nulInPath

/-- What is known of the replies of every disk: nothing is done at a path with NUL, and apart from
that a request fails only because it is refused. -/
def lawful (q : Request) (reply : service.Reply q) : Prop :=
  if q.holdsNul then reply = q.nulReply
  else ∀ e, reply = .error e → ∃ refusal, e = .disk refusal

/-- The replies of a record are those of a lawful disk. -/
def Lawful (os : List (Event service)) : Prop :=
  ∀ (q : Request) (reply : service.Reply q), .asked q reply ∈ os → lawful q reply

/-- A disk that refuses nothing. -/
def granting (q : Request) : service.Reply q :=
  if q.holdsNul then q.nulReply
  else match q with
    | .isThere _ => .ok true
    | .read _ => .ok []
    | .makeDirectory _ | .write _ _ | .rename _ _ | .remove _ => .ok ()

/-- A disk that refuses nothing is lawful. -/
theorem lawful_granting (q : Request) : lawful q (granting q) := by
  unfold lawful granting
  split
  · rfl
  · cases q <;> exact nofun

/-- On a lawful disk a request fails because of a path with NUL, or it is refused. -/
theorem cases_of_lawful {q : Request} {e : Failure} (h : lawful q (.error e)) :
    (q.holdsNul = true ∧ e = Tree.nulInPath) ∨ ∃ refusal, e = .disk refusal := by
  unfold lawful at h
  split at h
  · rename_i hnul
    cases q with
    | isThere path => cases h
    | _ =>
      cases h
      exact .inl ⟨hnul, rfl⟩
  · exact .inr (h e rfl)

/-- What is done on a lawful disk is not done at a path with NUL. -/
theorem not_holdsNul_of_lawful {q : Request} {value : Value q} (h : lawful q (.ok value))
    (hq : ∀ path, q ≠ .isThere path) : q.holdsNul = false := by
  unfold lawful at h
  split at h
  · cases q with
    | isThere path => exact absurd rfl (hq path)
    | _ => cases h
  · rename_i hnul
    exact Bool.not_eq_true _ ▸ hnul

/-- A disk in memory is a lawful one. -/
theorem Tree.lawful_answer (t : Tree) (q : Request) : lawful q (t.answer q).1 := by
  have hchanged : ∀ path r e, (t.changed path r).1 = .error e → ∃ refusal, e = .disk refusal := by
    intro path r e h
    cases r with
    | ok t' => cases h
    | error cause =>
      cases h
      exact ⟨_, rfl⟩
  have hanswered : ∀ {α : Type} path (r : Except Cause α) e, (t.answered path r).1 = .error e →
      ∃ refusal, e = .disk refusal := by
    intro α path r e h
    cases r with
    | ok a => cases h
    | error cause =>
      cases h
      exact ⟨_, rfl⟩
  rw [lawful]
  split
  · rename_i hnul
    have hfailure : pathFailure? q = some nulInPath := if_pos hnul
    rw [answer.eq_def, hfailure]
    cases q <;> rfl
  · rename_i hnul
    intro e he
    have hfailure : pathFailure? q = ((pathsOf q).find? fun path =>
        decide (maxPathLength < path.utf8ByteSize)).map fun path => .disk ⟨.nameTooLong, path⟩ :=
      if_neg hnul
    rw [answer.eq_def, hfailure] at he
    cases hlong : (pathsOf q).find? fun path => decide (maxPathLength < path.utf8ByteSize) with
    | some path =>
      rw [hlong] at he
      cases q <;> (cases he; exact ⟨_, rfl⟩)
    | none =>
      rw [hlong] at he
      cases q with
      | isThere path | read path => exact hanswered _ _ e he
      | makeDirectory path | write path _ | rename path _ | remove path => exact hchanged _ _ e he

variable {os os' : List (Event service)}

/-- The first reply of a lawful record is lawful. -/
theorem Lawful.head {q : Request} {reply : service.Reply q} (h : Lawful (.asked q reply :: os)) :
    lawful q reply := h q reply List.mem_cons_self

/-- What comes behind the start of a lawful record is lawful. -/
theorem Lawful.tail {o : Event service} (h : Lawful (o :: os)) : Lawful os :=
  fun q reply hmem => h q reply (List.mem_cons_of_mem _ hmem)

/-- Both parts of a lawful record are lawful. -/
theorem Lawful.of_append (h : Lawful (os ++ os')) : Lawful os ∧ Lawful os' :=
  ⟨fun q reply hmem => h q reply (List.mem_append_left _ hmem),
    fun q reply hmem => h q reply (List.mem_append_right _ hmem)⟩

/-- What is played against a disk that refuses nothing is lawful, and nothing is refused. -/
theorem lawful_run_granting {α : Type} (d : Dialogue service α) :
    Lawful (d.run (fun _ q => (granting q, ())) ()).2.2 ∧
      ∀ q refusal, .asked q (.error (.disk refusal)) ∉
        (d.run (fun _ q => (granting q, ())) ()).2.2 := by
  have hgranting : ∀ (q : Request) refusal, granting q ≠ .error (.disk refusal) := by
    intro q refusal
    unfold granting
    split
    · cases q <;> exact nofun
    · cases q <;> exact nofun
  induction d with
  | done a => exact ⟨fun _ _ => nofun, fun _ _ => nofun⟩
  | say line rest ih =>
    obtain ⟨hlawful, hnone⟩ := ih
    constructor
    · intro q reply hmem
      exact hlawful q reply ((List.mem_cons.mp hmem).resolve_left nofun)
    · intro q refusal hmem
      exact hnone q refusal ((List.mem_cons.mp hmem).resolve_left nofun)
  | ask q rest ih =>
    obtain ⟨hlawful, hnone⟩ := ih (granting q)
    constructor
    · intro q' reply hmem
      rcases List.mem_cons.mp hmem with heq | hmem
      · cases heq
        exact lawful_granting q
      · exact hlawful q' reply hmem
    · intro q' refusal hmem
      rcases List.mem_cons.mp hmem with heq | hmem
      · obtain ⟨hq, hreply⟩ := Event.asked.inj heq
        subst hq
        exact hgranting _ refusal (eq_of_heq hreply).symm
      · exact hnone q' refusal hmem

end Disk

namespace SessionStore

variable {s : SessionStore} {os : List (Event Disk.service)} {r : Except Failure Unit}

/-! ## Obstacles -/

/-- What saving the sessions fails with on every disk that does what is asked, if it does. -/
def obstacle? (s : SessionStore) : Option Failure :=
  if s.path.toText.toList.contains '\x00' then some Disk.Tree.nulInPath
  else if s.path.name = "" then some (.namelessPath s.path.toText)
  else if s.bytes?.isNone then some (.unencodable s.sessions.fileText)
  else none

/-- No obstacle is a refusal of the disk. -/
theorem not_disk_of_obstacle {e : Failure} (h : s.obstacle? = some e) (refusal : Disk.Refusal) :
    e ≠ .disk refusal := by
  rintro rfl
  unfold obstacle? at h
  split at h
  · cases h
  · split at h
    · cases h
    · split at h <;> cases h

/-- The sessions can be encoded just where all their texts consist of characters. -/
theorem bytes?_isSome_iff : s.bytes?.isSome ↔
    ∀ e ∈ s.sessions.entries, ∀ code, .lone code ∉ e.1 ∧ .lone code ∉ e.2 := by
  constructor
  · intro hsome e he code
    obtain ⟨contents, hbytes⟩ := Option.isSome_iff_exists.mp hsome
    obtain ⟨ms, hms⟩ := members_of_bytes? hbytes
    rw [hms] at he
    obtain ⟨m, -, rfl⟩ := List.mem_map.mp he
    exact ⟨Text.Wide.not_lone_mem_ofChars, Text.Wide.not_lone_mem_ofChars⟩
  · intro hall
    have hentry : s.sessions.entries ∈ Set.range (List.map Json.Member.entry) := by
      rw [Set.range_list_map]
      intro e he
      obtain ⟨key, hkey⟩ := Text.Wide.eq_ofChars_of_no_lone fun code => (hall e he code).1
      obtain ⟨value, hvalue⟩ := Text.Wide.eq_ofChars_of_no_lone fun code => (hall e he code).2
      exact ⟨(key, value), (Prod.ext hkey hvalue).symm⟩
    obtain ⟨ms, hms⟩ := hentry
    rw [bytes?_of_members hms.symm]
    rfl

/-- A path with NUL is the obstacle that comes first. -/
theorem obstacle?_of_nul (h : '\x00' ∈ s.path.toText.toList) :
    s.obstacle? = some Disk.Tree.nulInPath := if_pos (List.contains_iff_mem.mpr h)

/-- At a path without NUL there is an obstacle where the path has no name, or where the sessions
cannot be encoded. -/
theorem obstacle?_of_no_nul (h : '\x00' ∉ s.path.toText.toList) :
    s.obstacle? = if s.path.name = "" then some (.namelessPath s.path.toText)
      else if s.bytes?.isNone then some (.unencodable s.sessions.fileText) else none :=
  if_neg fun hmem => h (List.contains_iff_mem.mp hmem)

/-- Nothing stands in the way of saving just where the path has a name and no NUL, and the sessions
can be encoded. -/
theorem obstacle?_eq_none : s.obstacle? = none ↔
    s.path.name ≠ "" ∧ '\x00' ∉ s.path.toText.toList ∧ s.bytes?.isSome := by
  by_cases hnul : '\x00' ∈ s.path.toText.toList
  · simp [obstacle?_of_nul hnul, hnul]
  · rw [obstacle?_of_no_nul hnul]
    by_cases hname : s.path.name = ""
    · simp [hname]
    · cases hbytes : s.bytes? <;> simp [hname, hnul]

/-- Nothing stands in the way of saving just where the text of the path holds more than dots that
stand alone between slashes, and no NUL, and the sessions consist of characters. -/
theorem obstacle?_eq_none_iff {text : String} {sessions : SessionTable} :
    obstacle? ⟨Path.ofText text, sessions⟩ = none ↔
      (∃ part ∈ Path.splitSlashes text.toList, part ≠ [] ∧ part ≠ ['.']) ∧
      '\x00' ∉ text.toList ∧
      ∀ e ∈ sessions.entries, ∀ code, .lone code ∉ e.1 ∧ .lone code ∉ e.2 := by
  have hname : (Path.ofText text).name ≠ "" ↔
      ∃ part ∈ Path.splitSlashes text.toList, part ≠ [] ∧ part ≠ ['.'] := by
    rw [ne_eq, Path.name_ofText_eq_empty_iff]
    push Not
    rfl
  have hnul : '\x00' ∉ (Path.ofText text).toText.toList ↔ '\x00' ∉ text.toList :=
    not_congr (Path.mem_toText_ofText_iff (by decide) (by decide))
  rw [obstacle?_eq_none, bytes?_isSome_iff, hname, hnul]

/-- A change that the relay makes puts nothing in the way of saving. -/
theorem obstacle?_remember (h : s.obstacle? = none) (c : SessionChange) :
    (s.remember c).obstacle? = none := by
  obtain ⟨hname, hnul, hbytes⟩ := obstacle?_eq_none.mp h
  refine obstacle?_eq_none.mpr ⟨hname, hnul, ?_⟩
  rw [bytes?_isSome_iff] at hbytes ⊢
  intro e he code
  cases c with
  | set channel session =>
    rcases Entries.mem_of_mem_set he with rfl | he
    · exact ⟨Text.Wide.not_lone_mem_ofChars, Text.Wide.not_lone_mem_ofChars⟩
    · exact hbytes e he code
  | delete channel => exact hbytes e (List.mem_of_mem_filter he) code

/-- No changes that the relay makes put anything in the way of saving. -/
theorem obstacle?_foldl_remember (h : s.obstacle? = none) (cs : List SessionChange) :
    (cs.foldl remember s).obstacle? = none := by
  induction cs generalizing s with
  | nil => exact h
  | cons c cs ih => exact ih (obstacle?_remember h c)

/-! ## How saving ends -/

/-- The ways in which saving ends on a lawful disk. -/
inductive Ends (s : SessionStore) : List (Event Disk.service) → Except Failure Unit → Prop where
  /-- All is done that is asked, and nothing is logged. -/
  | saved {os : List (Event Disk.service)} (free : s.obstacle? = none) (granted : Unrefused os)
      (quiet : os.filterMap Event.line? = []) : Ends s os (.ok ())
  /-- The disk refuses a request. This is logged and not passed on, and no more is asked. -/
  | refused {os : List (Event Disk.service)} (q : Disk.Request) (refusal : Disk.Refusal)
      (quiet : os.filterMap Event.line? = []) :
      Ends s (os ++ [.asked q (.error (.disk refusal)),
        .said s!"[SessionStore] save failed: {refusal.message}"]) (.ok ())
  /-- There is an obstacle, which is passed on. -/
  | obstructed {os : List (Event Disk.service)} {e : Failure} (obstacle : s.obstacle? = some e)
      (quiet : os.filterMap Event.line? = []) : Ends s os (.error e)

/-- A request about one path is about NUL where that path has one. -/
theorem holdsNul_singleton {path : String} {q : Disk.Request}
    (hq : Disk.Tree.pathsOf q = [path]) : q.holdsNul = true ↔ '\x00' ∈ path.toList := by
  rw [Disk.Request.holdsNul, hq, List.any_cons, List.any_nil, Bool.or_false,
    List.contains_iff_mem]

/-- The directory of a file is at a path with NUL only if the file is. -/
theorem nul_of_makeDirectory (s : SessionStore)
    (h : (Disk.Request.makeDirectory s.path.parent.toText).holdsNul = true) :
    '\x00' ∈ s.path.toText.toList :=
  Path.mem_toText_of_parent (by decide) (by decide) ((holdsNul_singleton rfl).mp h)

/-- The temporary file is at a path with NUL just where the file is. -/
theorem nul_mem_temporaryPath (hname : s.path.name ≠ "") :
    '\x00' ∈ (temporaryPath s.path).toText.toList ↔ '\x00' ∈ s.path.toText.toList := by
  have hending : '\x00' ∉ ".tmp".toList := by decide
  rw [toText_temporaryPath hname, String.toList_append, List.mem_append, or_iff_left hending]

/-- The temporary file is written at a path with NUL just where the file is at one. -/
theorem holdsNul_write (hname : s.path.name ≠ "") (contents : Disk.Bytes) :
    (Disk.Request.write (temporaryPath s.path).toText contents).holdsNul = true ↔
      '\x00' ∈ s.path.toText.toList :=
  (holdsNul_singleton rfl).trans (nul_mem_temporaryPath hname)

/-- The temporary file is renamed at a path with NUL just where the file is at one. -/
theorem holdsNul_rename (hname : s.path.name ≠ "") :
    (Disk.Request.rename (temporaryPath s.path).toText s.path.toText).holdsNul = true ↔
      '\x00' ∈ s.path.toText.toList := by
  rw [Disk.Request.holdsNul, Disk.Tree.pathsOf, List.any_cons, List.any_cons, List.any_nil,
    Bool.or_false, Bool.or_eq_true, List.contains_iff_mem, List.contains_iff_mem,
    nul_mem_temporaryPath hname, or_self]

/-- At a path without a name the directory is made, and then the path is refused. -/
theorem write_of_nameless (hname : s.path.name = "") :
    s.write = .ask (.makeDirectory s.path.parent.toText) fun
      | .error e => .done (.error e)
      | .ok _ => .done (.error (.namelessPath s.path.toText)) := by
  rw [write]
  refine congrArg _ (funext fun reply => ?_)
  cases reply with
  | error e => rfl
  | ok _ => exact if_pos hname

/-- Nothing is logged while the file is written. -/
theorem lines_of_write (h : s.write.Plays os r) : os.filterMap Event.line? = [] := by
  by_cases hname : s.path.name = ""
  · rw [write_of_nameless hname] at h
    cases h with
    | ask reply h =>
      match reply with
      | .error e =>
        cases h
        rfl
      | .ok () =>
        cases h
        rfl
  · exact (written_of_plays hname h).lines

/-- How writing the file ends on a lawful disk: it is done, or the disk refuses the last request, or
there is an obstacle. Nothing is logged by then. -/
inductive Tried (s : SessionStore) : List (Event Disk.service) → Except Failure Unit → Prop where
  | done {os : List (Event Disk.service)} (free : s.obstacle? = none) (granted : Unrefused os) :
      Tried s os (.ok ())
  | refused {os : List (Event Disk.service)} (q : Disk.Request) (refusal : Disk.Refusal) :
      Tried s (os ++ [.asked q (.error (.disk refusal))]) (.error (.disk refusal))
  | obstructed {os : List (Event Disk.service)} {e : Failure} (obstacle : s.obstacle? = some e) :
      Tried s os (.error e)

/-- A request that fails on a lawful disk is refused, or it is about a path with NUL. -/
theorem tried_of_failed (before : List (Event Disk.service)) {q : Disk.Request} {e : Failure}
    (h : Disk.lawful q (.error e))
    (hq : q.holdsNul = true → '\x00' ∈ s.path.toText.toList) :
    s.Tried (before ++ [.asked q (.error e)]) (.error e) := by
  rcases Disk.cases_of_lawful h with ⟨hnul, rfl⟩ | ⟨refusal, rfl⟩
  · exact .obstructed (obstacle?_of_nul (hq hnul))
  · exact .refused q refusal

/-- A path without a name is an obstacle, unless the directory cannot be made in the first place. -/
theorem tried_of_nameless (hname : s.path.name = "") (h : s.write.Plays os r)
    (hos : Disk.Lawful os) : s.Tried os r := by
  have hdirectory := s.nul_of_makeDirectory
  rw [write_of_nameless hname] at h
  cases h with
  | @ask _ _ os _ reply h =>
    match reply, h, hos with
    | .error e, h, hos =>
      cases h
      exact tried_of_failed [] hos.head hdirectory
    | .ok (), h, hos =>
      cases h
      have hnul : '\x00' ∉ s.path.toText.toList := by
        intro hmem
        have hparent := Path.mem_toText_parent (by decide) (by decide) hname hmem
        have hnot := Disk.not_holdsNul_of_lawful hos.head nofun
        rw [(holdsNul_singleton rfl).mpr hparent] at hnot
        cases hnot
      refine .obstructed ?_
      rw [obstacle?_of_no_nul hnul, if_pos hname]

/-- A file with a name is written, or the disk refuses a request, or the sessions cannot be
encoded. What was written was not written to a path with NUL. -/
theorem tried_of_written (hname : s.path.name ≠ "") (h : s.Written os r) (hos : Disk.Lawful os) :
    s.Tried os r := by
  have hfree : ∀ contents, Disk.lawful (.write (temporaryPath s.path).toText contents) (.ok ()) →
      '\x00' ∉ s.path.toText.toList := by
    intro contents hlawful hmem
    have hnot := Disk.not_holdsNul_of_lawful hlawful nofun
    rw [(holdsNul_write hname contents).mpr hmem] at hnot
    cases hnot
  cases h with
  | noDirectory e => exact tried_of_failed [] hos.head s.nul_of_makeDirectory
  | noTemporary e =>
    have hlater : Disk.Lawful [.asked _ _] := hos.tail
    exact tried_of_failed [s.directoryMade] hlater.head (holdsNul_write hname _).mp
  | unencodable hbytes =>
    have hlater : Disk.Lawful [.asked _ _] := hos.tail
    have hnul := hfree _ hlater.head
    refine .obstructed ?_
    rw [obstacle?_of_no_nul hnul, if_neg hname, hbytes]
    rfl
  | @moved contents hbytes =>
    have hlater : Disk.Lawful [s.temporaryWritten contents, _] := hos.tail
    have hnul := hfree _ hlater.head
    match r with
    | .ok () =>
      refine .done (obstacle?_eq_none.mpr ⟨hname, hnul, hbytes ▸ rfl⟩) ?_
      intro q e hmem
      simp only [List.mem_cons, List.not_mem_nil, or_false] at hmem
      rcases hmem with heq | heq | heq <;> cases heq
    | .error e =>
      exact tried_of_failed [s.directoryMade, s.temporaryWritten contents] hlater.tail.head
        (holdsNul_rename hname).mp

/-- However writing the file ends on a lawful disk, it ends in one of these ways. -/
theorem tried_of_write (h : s.write.Plays os r) (hos : Disk.Lawful os) : s.Tried os r := by
  by_cases hname : s.path.name = ""
  · exact tried_of_nameless hname h hos
  · exact tried_of_written hname (written_of_plays hname h) hos

/-- However saving ends on a lawful disk, it ends in one of these ways. -/
theorem ends_of_save (h : s.save.Plays os r) (hos : Disk.Lawful os) : s.Ends os r := by
  rw [save_eq] at h
  obtain ⟨first, second, outcome, rfl, hfirst, hsecond⟩ := Dialogue.plays_bind.mp h
  have hquiet : first.filterMap Event.line? = [] := lines_of_write hfirst
  have hdone : ∀ {e : Failure}, (∀ refusal, e ≠ .disk refusal) →
      (report (.error e)).Plays second r → second = [] ∧ r = .error e := by
    intro e he hplays
    have hreport : report (.error e) = .done (.error e) := by
      cases e with
      | disk refusal => exact absurd rfl (he refusal)
      | _ => rfl
    rw [hreport] at hplays
    cases hplays
    exact ⟨rfl, rfl⟩
  cases tried_of_write hfirst hos.of_append.1 with
  | done free granted =>
    cases hsecond
    rw [List.append_nil]
    exact .saved free granted hquiet
  | @refused before q refusal =>
    cases hsecond with
    | say hsecond =>
      cases hsecond
      rw [List.append_assoc]
      rw [List.filterMap_append] at hquiet
      exact .refused q refusal (List.append_eq_nil_iff.mp hquiet).1
  | @obstructed _ e obstacle =>
    obtain ⟨rfl, rfl⟩ := hdone (not_disk_of_obstacle obstacle) hsecond
    rw [List.append_nil]
    exact .obstructed obstacle hquiet

/-- Where there is an obstacle, saving fails with it on a disk that refuses nothing. -/
theorem plays_of_obstacle {e : Failure} (h : s.obstacle? = some e) :
    ∃ os, Disk.Lawful os ∧ s.save.Plays os (.error e) := by
  have hplays := Dialogue.plays_run (fun _ q => (Disk.granting q, ())) () s.save
  obtain ⟨hlawful, hgranted⟩ := Disk.lawful_run_granting s.save
  generalize (s.save.run (fun _ q => (Disk.granting q, ())) ()).2.2 = os at hplays hlawful hgranted
  generalize (s.save.run (fun _ q => (Disk.granting q, ())) ()).1 = r at hplays
  cases ends_of_save hplays hlawful with
  | saved free => rw [h] at free; cases free
  | refused q refusal =>
    exact absurd (List.mem_append_right _ List.mem_cons_self) (hgranted q refusal)
  | obstructed obstacle =>
    rw [h] at obstacle
    cases obstacle
    exact ⟨os, hlawful, hplays⟩

end SessionStore

/-! ## What is passed on -/

namespace SessionChange

/-- The channel whose session changes. -/
def channel : SessionChange → String
  | .set channel _ => channel
  | .delete channel => channel

/-- The session of the channel after the change. -/
def session? : SessionChange → Option Text.Wide
  | .set _ session => some session
  | .delete _ => none

end SessionChange

namespace SessionStore

variable {store : SessionStore}

/-- The reply of a store to a change, when it was told about other changes before and its disk is a
lawful one. -/
def Answers (store : SessionStore) (c : SessionChange) (reply : Except Failure Unit) : Prop :=
  ∃ (told : List SessionChange) (os : List (Event Disk.service)), Disk.Lawful os ∧
    ((told.foldl remember store).change c).2.Plays os reply

/-- The store keeps its failures to itself, whatever a lawful disk replies. -/
def KeepsFailures (store : SessionStore) : Prop := ∀ c reply, store.Answers c reply → reply = .ok ()

/-- A change is made in memory, and nothing else is. -/
theorem get?_change (store : SessionStore) (c : SessionChange) (key : Text.Wide) :
    (store.change c).1.sessions.get? key =
      if key = c.channel then c.session? else store.sessions.get? key := by
  by_cases hkey : key = c.channel
  · rw [if_pos hkey, hkey]
    cases c with
    | set channel session => exact store.sessions.get?_set_self _ _
    | delete channel => exact store.sessions.get?_erase_self _
  · rw [if_neg hkey]
    cases c with
    | set channel session => exact store.sessions.get?_set_of_ne hkey _
    | delete channel => exact store.sessions.get?_erase_of_ne hkey

/-- A store answers every change. -/
theorem exists_answers (store : SessionStore) (c : SessionChange) :
    ∃ reply, store.Answers c reply :=
  ⟨_, [], _, (Disk.lawful_run_granting (store.change c).2).1, Dialogue.plays_run _ () _⟩

/-- How a change ends on a lawful disk: it is saved, or there is nothing to be saved. -/
theorem ends_of_change {c : SessionChange} {os : List (Event Disk.service)}
    {reply : Except Failure Unit} (h : (store.change c).2.Plays os reply) (hos : Disk.Lawful os) :
    if store.isSaved c then (store.remember c).Ends os reply else os = [] ∧ reply = .ok () := by
  rw [change] at h
  split at h
  · rename_i hsaved
    rw [if_pos hsaved]
    exact ends_of_save h hos
  · rename_i hsaved
    rw [if_neg hsaved]
    cases h
    exact ⟨rfl, rfl⟩

/-- Where nothing stands in the way of saving, the store keeps its failures to itself. -/
theorem keepsFailures_of_obstacle (h : store.obstacle? = none) : store.KeepsFailures := by
  rintro c reply ⟨told, os, hos, hplays⟩
  have htold : (told.foldl remember store).obstacle? = none := obstacle?_foldl_remember h told
  have hends := ends_of_change hplays hos
  split at hends
  · cases hends with
    | saved _ _ _ => rfl
    | refused q refusal _ => rfl
    | obstructed obstacle _ =>
      rw [obstacle?_remember htold c] at obstacle
      cases obstacle
  · exact hends.2

/-- What stands in the way of saving still does when a session is set in some channel. -/
theorem exists_obstacle_set {e : Failure} (h : store.obstacle? = some e) :
    ∃ channel e', (store.remember (.set channel "")).obstacle? = some e' := by
  by_contra hnone
  have hfree : ∀ channel, (store.remember (.set channel "")).obstacle? = none := by
    intro channel
    exact Option.eq_none_iff_forall_ne_some.mpr fun e' he' => hnone ⟨channel, e', he'⟩
  obtain ⟨hname, hnul, -⟩ := obstacle?_eq_none.mp (hfree "")
  -- An entry of the file that cannot be encoded stays when another channel gets a session.
  have hbytes : store.bytes?.isSome := by
    refine bytes?_isSome_iff.mpr fun entry hentry => ?_
    obtain ⟨channel, hchannel⟩ : ∃ channel : String, entry.1 ≠ channel := by
      by_cases hempty : entry.1 = ("" : String)
      · exact ⟨"1", hempty ▸ by decide⟩
      · exact ⟨"", hempty⟩
    have hencoded := bytes?_isSome_iff.mp (obstacle?_eq_none.mp (hfree channel)).2.2
    exact hencoded entry (Entries.mem_set_of_mem hentry hchannel _)
  have hfree' : store.obstacle? = none := obstacle?_eq_none.mpr ⟨hname, hnul, hbytes⟩
  rw [hfree'] at h
  cases h

/-- The store keeps its failures to itself just where nothing stands in the way of saving. -/
theorem keepsFailures_iff : store.KeepsFailures ↔ store.obstacle? = none := by
  constructor
  · intro hcontains
    refine Option.eq_none_iff_forall_ne_some.mpr fun e he => ?_
    obtain ⟨channel, e', hset⟩ := exists_obstacle_set he
    obtain ⟨os, hos, hplays⟩ := plays_of_obstacle hset
    have hanswers : store.Answers (.set channel "") (.error e') := ⟨[], os, hos, hplays⟩
    cases hcontains _ _ hanswers
  · exact keepsFailures_of_obstacle

end SessionStore

end ChatRelay
