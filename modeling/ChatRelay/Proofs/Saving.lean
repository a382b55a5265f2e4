import ChatRelay.Proofs.Files
import ChatRelay.Proofs.Path
import ChatRelay.Proofs.Table
import ChatRelay.SessionStore

/-!
# Saving sessions

The file of a store is saved by writing a temporary file beside it and moving that into its place.
`SessionStore.Written` lists the ways on which this can go, and `SessionStore.Whole` says that the
file holds what it held before, or all of the new contents.

The main statement is `SessionStore.save_all_or_nothing`: wherever saving is refused or broken off,
the file is whole, and a refusal of the disk is only logged.
-/

namespace ChatRelay.SessionStore

open Dialogue (Event)
open Disk (Files Along Partly)

/-! ## The temporary file -/

/-- The name of the temporary file is the name of the file with `.tmp` behind it. -/
theorem temporaryPath_eq (path : Path) :
    temporaryPath path = path.withName (path.name ++ ".tmp") :=
  path.withSuffix_append ".tmp"

/-- The path of the temporary file is that of the file with `.tmp` behind it. -/
theorem toText_temporaryPath {path : Path} (h : path.name ≠ "") :
    (temporaryPath path).toText = path.toText ++ ".tmp" := by
  conv => rhs; rw [← path.withName_name h]
  rw [temporaryPath_eq, Path.withName, Path.withName, Path.toText_child, Path.toText_child,
    String.append_assoc]

/-- The temporary file is another one than the file. -/
theorem temporaryPath_ne {path : Path} (h : path.name ≠ "") :
    (temporaryPath path).toText ≠ path.toText := by
  intro heq
  have hlength := congrArg String.length (toText_temporaryPath h)
  rw [heq, String.length_append] at hlength
  exact absurd hlength (Nat.ne_of_lt (Nat.lt_add_of_pos_right (by decide)))

/-! ## The ways of saving -/

/-- The whole contents of the file, unless they cannot be written. -/
def bytes? (s : SessionStore) : Option Disk.Bytes := Text.encodeWide? s.sessions.fileText

/-- What is asked first: the directory of the file. -/
abbrev directoryMade (s : SessionStore) : Event Disk.service :=
  .asked (.makeDirectory s.path.parent.toText) (.ok ())

/-- What is asked then: the temporary file with these contents. -/
abbrev temporaryWritten (s : SessionStore) (contents : Disk.Bytes) : Event Disk.service :=
  .asked (.write (temporaryPath s.path).toText contents) (.ok ())

/-- The ways on which writing the file can go. -/
inductive Written (s : SessionStore) : List (Event Disk.service) → Except Failure Unit → Prop where
  | noDirectory (e : Failure) :
    Written s [.asked (.makeDirectory s.path.parent.toText) (.error e)] (.error e)
  | noTemporary (e : Failure) : Written s
      [s.directoryMade, .asked (.write (temporaryPath s.path).toText (s.bytes?.getD [])) (.error e)]
      (.error e)
  | unencodable (none : s.bytes? = none) : Written s [s.directoryMade, s.temporaryWritten []]
      (.error (.unencodable s.sessions.fileText))
  | moved {contents : Disk.Bytes} (some : s.bytes? = some contents) (reply : Except Failure Unit) :
    Written s [s.directoryMade, s.temporaryWritten contents,
      .asked (.rename (temporaryPath s.path).toText s.path.toText) reply] reply

variable {s : SessionStore} {os : List (Event Disk.service)} {r : Except Failure Unit}

/-- What is asked when the directory is there. -/
theorem write_of_name (hname : s.path.name ≠ "") :
    s.write = .ask (.makeDirectory s.path.parent.toText) fun
      | .error e => .done (.error e)
      | .ok _ => .ask (.write (temporaryPath s.path).toText (s.bytes?.getD [])) fun
        | .error e => .done (.error e)
        | .ok _ =>
          match s.bytes? with
          | none => .done (.error (.unencodable s.sessions.fileText))
          | some _ => .ask (.rename (temporaryPath s.path).toText s.path.toText) .done := by
  rw [write]
  refine congrArg _ (funext fun reply => ?_)
  cases reply with
  | error e => rfl
  | ok _ =>
    dsimp only
    rw [if_neg hname]
    refine congrArg _ (funext fun reply => ?_)
    cases reply with
    | error e => rfl
    | ok _ =>
      rw [bytes?]
      cases Text.encodeWide? s.sessions.fileText <;> rfl

/-- However writing the file goes, it is one of these ways. -/
theorem written_of_plays (hname : s.path.name ≠ "") (h : s.write.Plays os r) :
    s.Written os r := by
  rw [write_of_name hname] at h
  cases h with
  | ask reply h =>
    match reply with
    | .error e =>
      cases h
      exact .noDirectory e
    | .ok () =>
      cases h with
      | ask reply h =>
        match reply with
        | .error e =>
          cases h
          exact .noTemporary e
        | .ok () =>
          dsimp only at h
          cases hbytes : s.bytes? with
          | none =>
            rw [hbytes] at h
            cases h
            exact .unencodable hbytes
          | some contents =>
            rw [hbytes] at h
            cases h with
            | ask reply h =>
              cases h
              exact .moved hbytes _

/-- What saving asks, and what it has asked before. -/
inductive Asking (s : SessionStore) : List (Event Disk.service) → Disk.Request → Prop where
  | directory : Asking s [] (.makeDirectory s.path.parent.toText)
  | temporary :
    Asking s [s.directoryMade] (.write (temporaryPath s.path).toText (s.bytes?.getD []))
  | move {contents : Disk.Bytes} (some : s.bytes? = some contents) :
    Asking s [s.directoryMade, s.temporaryWritten contents]
      (.rename (temporaryPath s.path).toText s.path.toText)

/-- Whatever writing the file asks, it is one of these requests in their order. -/
theorem asking_of_asksAfter (hname : s.path.name ≠ "") {q : Disk.Request}
    (h : s.write.AsksAfter os q) : s.Asking os q := by
  rw [write_of_name hname] at h
  cases h with
  | here => exact .directory
  | asked reply h =>
    match reply with
    | .error e => cases h
    | .ok () =>
      cases h with
      | here => exact .temporary
      | asked reply h =>
        match reply with
        | .error e => cases h
        | .ok () =>
          dsimp only at h
          cases hbytes : s.bytes? with
          | none =>
            rw [hbytes] at h
            cases h
          | some contents =>
            rw [hbytes] at h
            cases h with
            | here => exact .move hbytes
            | asked reply h => cases h

/-- What is made of the outcome of writing the file. -/
def report : Except Failure Unit → Dialogue Disk.service (Except Failure Unit)
  | .error (.disk refusal) =>
    .say s!"[SessionStore] save failed: {refusal.message}" (.done (.ok ()))
  | outcome => .done outcome

/-- The file is written, and then the outcome is reported. -/
theorem save_eq (s : SessionStore) : s.save = s.write.bind report := by
  refine congrArg s.write.bind (funext fun r => ?_)
  match r with
  | .error e => cases e <;> rfl
  | .ok () => rfl

/-- The report asks nothing. -/
theorem not_asksAfter_report {q : Disk.Request} : ¬(report r).AsksAfter os q := by
  unfold report
  split
  · rintro (_ | ⟨⟨⟩⟩)
  · rintro ⟨⟩

/-- Whatever saving asks, it is one of these requests in their order. -/
theorem asking_of_save (hname : s.path.name ≠ "") {q : Disk.Request}
    (h : s.save.AsksAfter os q) : s.Asking os q := by
  rw [save_eq] at h
  rcases Dialogue.asksAfter_bind h with hfirst | ⟨_, _, _, -, -, hsecond⟩
  · exact asking_of_asksAfter hname hfirst
  · exact absurd hsecond not_asksAfter_report

/-! ## What becomes of the file -/

/-- The file holds what it held before, or the whole new contents. -/
def Whole (s : SessionStore) (f f' : Files) : Prop :=
  f' s.path.toText = f s.path.toText ∨
    ∃ contents, s.bytes? = some contents ∧ f' s.path.toText = some contents

variable {f f' f'' : Files}

/-- Making the directory changes no file. -/
theorem along_directoryMade (h : Along Partly f (s.directoryMade :: os) f') :
    Along Partly f os f' := by
  cases h with
  | granted _ later => exact later

/-- Until it is moved, the temporary file leaves the file as it is. -/
theorem along_temporaryWritten {contents : Disk.Bytes}
    (h : Along Partly f (s.temporaryWritten contents :: os) f') :
    Along Partly (f.set (temporaryPath s.path).toText (some contents)) os f' := by
  cases h with
  | granted _ later => exact later

/-- Wherever the move is broken off, the file is whole. -/
theorem Whole.of_partly_move {contents : Disk.Bytes} (hname : s.path.name ≠ "")
    (hbytes : s.bytes? = some contents)
    (h : Partly (f.set (temporaryPath s.path).toText (some contents))
      (.rename (temporaryPath s.path).toText s.path.toText) f') : s.Whole f f' := by
  rcases h.rename_target with hold | hnew
  · rw [Files.set_of_ne _ (temporaryPath_ne hname).symm] at hold
    exact .inl hold
  · rw [Files.set_self] at hnew
    exact .inr ⟨contents, hbytes, hnew⟩

/-- Wherever saving is broken off, the file is whole. -/
theorem whole_of_asking (hname : s.path.name ≠ "") {q : Disk.Request} (hq : s.Asking os q)
    (hos : Along Partly f os f') (hpartly : Partly f' q f'') : s.Whole f f'' := by
  cases hq with
  | directory =>
    cases hos
    exact .inl (congrFun hpartly.makeDirectory _)
  | temporary =>
    cases along_directoryMade hos
    exact .inl (hpartly.write_of_ne (temporaryPath_ne hname).symm)
  | move hbytes =>
    cases along_temporaryWritten (along_directoryMade hos)
    exact .of_partly_move hname hbytes hpartly

/-- However saving ends, the file is whole. -/
theorem whole_of_written (hname : s.path.name ≠ "") (h : s.Written os r)
    (hos : Along Partly f os f') : s.Whole f f' := by
  have hne := (temporaryPath_ne hname).symm
  cases h with
  | noDirectory e =>
    cases hos with
    | refused left later =>
      cases later
      exact .inl (congrFun left.makeDirectory _)
  | noTemporary e =>
    cases along_directoryMade hos with
    | refused left later =>
      cases later
      exact .inl (left.write_of_ne hne)
  | unencodable _ =>
    cases along_temporaryWritten (along_directoryMade hos)
    exact .inl (Files.set_of_ne _ hne _)
  | moved hbytes reply =>
    have hmove := along_temporaryWritten (along_directoryMade hos)
    cases hmove with
    | granted _ later =>
      cases later
      exact .of_partly_move hname hbytes (.all _)
    | refused left later =>
      cases later
      exact .of_partly_move hname hbytes left

/-- However saving goes, the file is whole. -/
theorem whole_of_save (hname : s.path.name ≠ "") (h : s.save.Plays os r)
    (hos : Along Partly f os f') : s.Whole f f' := by
  rw [save_eq] at h
  obtain ⟨first, second, outcome, rfl, hfirst, hsecond⟩ := Dialogue.plays_bind.mp h
  obtain ⟨f₁, hbefore, hafter⟩ := Disk.along_append.mp hos
  have hsame : f' = f₁ := by
    unfold report at hsecond
    split at hsecond
    · cases hsecond with
      | say hdone =>
        cases hdone
        cases hafter with
        | said later =>
          cases later
          rfl
    · cases hsecond
      cases hafter
      rfl
  rw [hsame]
  exact whole_of_written hname (written_of_plays hname hfirst) hbefore

/-! ## What is reported -/

/-- A request that is refused while the file is written is the last one, and it is the outcome. -/
theorem Written.refused (h : s.Written os r) {q : Disk.Request} {e : Failure}
    (hmem : .asked q (.error e) ∈ os) : r = .error e := by
  have hgranted : ∀ {q' : Disk.Request} {value : Disk.Value q'},
      Event.asked (P := Disk.service) q (.error e) ≠ .asked q' (.ok value) := nofun
  cases h with
  | noDirectory e' =>
    cases List.mem_singleton.mp hmem
    rfl
  | noTemporary e' =>
    rcases List.mem_cons.mp hmem with heq | hmem
    · exact absurd heq hgranted
    · cases List.mem_singleton.mp hmem
      rfl
  | unencodable _ =>
    rcases List.mem_cons.mp hmem with heq | hmem
    · exact absurd heq hgranted
    · exact absurd (List.mem_singleton.mp hmem) hgranted
  | moved _ reply =>
    rcases List.mem_cons.mp hmem with heq | hmem
    · exact absurd heq hgranted
    · rcases List.mem_cons.mp hmem with heq | hmem
      · exact absurd heq hgranted
      · cases List.mem_singleton.mp hmem
        rfl

/-- Nothing is logged while the file is written. -/
theorem Written.lines (h : s.Written os r) : os.filterMap Event.line? = [] := by
  cases h <;> rfl

/-- A refusal of the disk is logged, and saving goes on as if it had succeeded. -/
theorem logged_of_save (hname : s.path.name ≠ "") (h : s.save.Plays os r) {q : Disk.Request}
    {refusal : Disk.Refusal} (hmem : .asked q (.error (.disk refusal)) ∈ os) :
    r = .ok () ∧
      os.filterMap Event.line? = [s!"[SessionStore] save failed: {refusal.message}"] := by
  rw [save_eq] at h
  obtain ⟨first, second, outcome, rfl, hfirst, hsecond⟩ := Dialogue.plays_bind.mp h
  have hwritten := written_of_plays hname hfirst
  have hasked : ∀ o ∈ second, ∃ line, o = .said line := by
    unfold report at hsecond
    split at hsecond
    · cases hsecond with
      | say hdone =>
        cases hdone
        exact List.forall_mem_singleton.mpr ⟨_, rfl⟩
    · cases hsecond
      exact List.forall_mem_nil _
  have hfirstmem : .asked q (.error (.disk refusal)) ∈ first := by
    rcases List.mem_append.mp hmem with hmem | hmem
    · exact hmem
    · obtain ⟨line, hline⟩ := hasked _ hmem
      cases hline
  cases hwritten.refused hfirstmem
  cases hsecond with
  | say hdone =>
    cases hdone
    rw [List.filterMap_append, hwritten.lines]
    exact ⟨rfl, rfl⟩

/-! ## What succeeds -/

/-- What is reported as a success without a line in the log is one. -/
theorem ok_of_report {outcome : Except Failure Unit} (h : (report outcome).Plays os (.ok ()))
    (hquiet : os.filterMap Event.line? = []) : outcome = .ok () ∧ os = [] := by
  match outcome with
  | .error (.disk refusal) =>
    cases h with
    | say h =>
      cases h
      cases hquiet
  | .ok () =>
    cases h
    exact ⟨rfl, rfl⟩
  | .error (.service _ _) | .error (.numeral _) | .error (.notTextChannel _)
  | .error (.notDirective _) | .error (.notFeedback _) | .error (.notWork _)
  | .error .undecodable | .error (.unencodable _) | .error (.json _) | .error (.namelessPath _)
  | .error (.yaml _) | .error (.config _) => cases h

/-- What was saved without a failure is in the file. -/
theorem saved_of_save (hname : s.path.name ≠ "") (h : s.save.Plays os (.ok ()))
    (hquiet : os.filterMap Event.line? = []) (hos : Along Partly f os f') :
    ∃ contents, s.bytes? = some contents ∧ f' s.path.toText = some contents := by
  rw [save_eq] at h
  obtain ⟨first, second, outcome, rfl, hfirst, hsecond⟩ := Dialogue.plays_bind.mp h
  rw [List.filterMap_append, List.append_eq_nil_iff] at hquiet
  obtain ⟨rfl, rfl⟩ := ok_of_report hsecond hquiet.2
  rw [List.append_nil] at hos
  have hwritten := written_of_plays hname hfirst
  generalize hreply : (Except.ok () : Except Failure Unit) = reply at hwritten
  cases hwritten with
  | noDirectory e | noTemporary e | unencodable _ => cases hreply
  | @moved contents hbytes =>
    subst hreply
    cases along_temporaryWritten (along_directoryMade hos) with
    | granted _ later =>
      cases later
      refine ⟨contents, hbytes, ?_⟩
      rw [Disk.granted, Files.set_self, Files.set_self]

/-- Where nothing is refused, what can be written is saved. -/
theorem plays_save (hname : s.path.name ≠ "") {contents : Disk.Bytes}
    (hbytes : s.bytes? = some contents) :
    s.save.Plays [s.directoryMade, s.temporaryWritten contents,
      .asked (.rename (temporaryPath s.path).toText s.path.toText) (.ok ())] (.ok ()) := by
  rw [save_eq, write_of_name hname, hbytes]
  exact .ask (P := Disk.service) (q := .makeDirectory s.path.parent.toText) (.ok ())
    (.ask (P := Disk.service) (q := .write (temporaryPath s.path).toText contents) (.ok ())
      (.ask (P := Disk.service) (q := .rename (temporaryPath s.path).toText s.path.toText) (.ok ())
        (.done _)))

/-- A change that is not saved changes nothing in memory. -/
theorem remember_of_not_saved {c : SessionChange} (h : s.isSaved c = false) : s.remember c = s := by
  cases c with
  | set channel session => cases h
  | delete channel =>
    have herase : s.sessions.erase channel = s.sessions := Table.erase_of_not_contains h
    rw [remember, SessionTable.apply, herase]

/-- **Saving is all or nothing.** Whatever the sessions are and whatever the disk answers:
* where saving is broken off, be it between two requests or in the middle of one, and however it
  ends, the file holds what it held before or the whole new contents;
* the temporary file is another one in the same directory, and its name is that of the file with
  `.tmp` behind it;
* a refusal of the disk is logged and not passed on;
* where nothing is logged and nothing passed on, the file holds the whole new contents, and so it
  goes where no request is refused and the new contents can be written.

A change is there in memory whatever becomes of saving it, and where it is not saved there is
nothing to be saved. -/
theorem save_all_or_nothing (s : SessionStore) (hname : s.path.name ≠ "") :
    (∀ f os f' q f'', s.save.AsksAfter os q → Along Partly f os f' → Partly f' q f'' →
      s.Whole f f'') ∧
    (∀ f os r f', s.save.Plays os r → Along Partly f os f' → s.Whole f f') ∧
    (temporaryPath s.path).parent = s.path.parent ∧
    (temporaryPath s.path).name = s.path.name ++ ".tmp" ∧
    (temporaryPath s.path).toText ≠ s.path.toText ∧
    (∀ os r q refusal, s.save.Plays os r → .asked q (.error (.disk refusal)) ∈ os → r = .ok () ∧
      os.filterMap Event.line? = [s!"[SessionStore] save failed: {refusal.message}"]) ∧
    (∀ f os f', s.save.Plays os (.ok ()) → os.filterMap Event.line? = [] → Along Partly f os f' →
      ∃ contents, s.bytes? = some contents ∧ f' s.path.toText = some contents) ∧
    (∀ contents, s.bytes? = some contents →
      s.save.Plays [s.directoryMade, s.temporaryWritten contents,
        .asked (.rename (temporaryPath s.path).toText s.path.toText) (.ok ())] (.ok ())) ∧
    ∀ (old : SessionStore) c, (old.change c).1 = { old with sessions := old.sessions.apply c } ∧
      ((old.change c).2 = (old.change c).1.save ∨
        (old.change c).2 = .done (.ok ()) ∧ (old.change c).1 = old) := by
  refine ⟨fun f os f' q f'' hasks hos => whole_of_asking hname (asking_of_save hname hasks) hos,
    fun f os r f' hplays => whole_of_save hname hplays, ?_, ?_, temporaryPath_ne hname,
    fun os r q refusal hplays => logged_of_save hname hplays,
    fun f os f' hplays hquiet => saved_of_save hname hplays hquiet,
    fun contents hbytes => plays_save hname hbytes, fun old c => ⟨rfl, ?_⟩⟩
  · rw [temporaryPath_eq, Path.parent_withName]
  · rw [temporaryPath_eq, Path.name_withName]
  · cases hsaved : old.isSaved c with
    | true => exact .inl (if_pos hsaved)
    | false => exact .inr ⟨if_neg (Bool.eq_false_iff.mp hsaved), remember_of_not_saved hsaved⟩

/-- A disk that is full: after three bytes of the temporary file the file is as it was, and the
refusal is logged. -/
theorem save_all_or_nothing_fullDisk :
    let s : SessionStore := ⟨⟨"", ["data", ".sessions.json"]⟩, Table.empty.set "100" "late"⟩
    let full : Disk.Refusal :=
      ⟨.other "OSError" 28 "No space left on device", "data/.sessions.json.tmp"⟩
    let os : List (Event Disk.service) := [s.directoryMade,
      .asked (.write (temporaryPath s.path).toText (s.bytes?.getD [])) (.error (.disk full)),
      .said s!"[SessionStore] save failed: {full.message}"]
    let f : Files := fun _ => some [0x7b, 0x7d]
    let f' := f.set (temporaryPath s.path).toText (some ((s.bytes?.getD []).take 3))
    s.path.name ≠ "" ∧ s.save.Plays os (.ok ()) ∧ Along Partly f os f' ∧ s.Whole f f' ∧
      os.filterMap Event.line? = [s!"[SessionStore] save failed: {full.message}"] ∧
      (temporaryPath s.path).name = ".sessions.json.tmp" := by
  intro s full os f f'
  have hname : s.path.name ≠ "" := by decide
  have hplays : s.save.Plays os (.ok ()) := by
    rw [save_eq, write_of_name hname]
    exact .ask (P := Disk.service) (q := .makeDirectory s.path.parent.toText) (.ok ())
      (.ask (P := Disk.service) (.error (.disk full)) (.say (.done _)))
  have halong : Along Partly f os f' :=
    .granted trivial (.refused (.part _ _ 3) (.said (.nil _)))
  obtain ⟨-, hends, -, htemporary, -, hlogged, -⟩ := save_all_or_nothing s hname
  have hlines := hlogged os _ _ full hplays
    (List.mem_cons_of_mem _ List.mem_cons_self)
  exact ⟨hname, hplays, halong, hends f os _ f' hplays halong, hlines.2, htemporary⟩

end ChatRelay.SessionStore
