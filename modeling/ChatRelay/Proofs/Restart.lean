import ChatRelay.Proofs.Encoding
import ChatRelay.Proofs.Json
import ChatRelay.Proofs.Saving
import ChatRelay.Proofs.Sessions

/-!
# Sessions over a restart

A store that is opened reads its file (`SessionStore.opened`), and a file that was saved is read as
the sessions that were saved (`SessionStore.parse_bytes?`). So the file stands for the sessions in
memory, as long as every save succeeds and nobody else writes it (`SessionStore.Saves.stands`).

The main statement is `SessionStore.sessions_survive_restart`: a store that is opened on the same
path has the sessions of the old one, in the same order, and an engine that is made with them goes
on with the sessions of the old engine.
-/

namespace ChatRelay

open Dialogue (Event)
open Disk (Files Along Partly)
open Text.Wide (ofChars)

namespace SessionStore

/-! ## What was saved is read -/

/-- The document of a table is read as the table. -/
theorem ofDocument_read {t : SessionTable} {ms : List Json.Member}
    (h : t.entries = ms.map Json.Member.entry) :
    SessionTable.ofDocument (.object (ms.map Json.Member.read)) = t := by
  have hkeys : Entries.keys (ms.map Json.Member.read) = Entries.keys t.entries := by
    rw [h, Entries.keys, Entries.keys, List.map_map, List.map_map]
    rfl
  have hmembers : (Table.ofList (ms.map Json.Member.read)).entries = ms.map Json.Member.read :=
    Table.entries_ofList (hkeys ▸ t.nodup_keys)
  have htexts : (ms.map Json.Member.read).filterMap
      (fun m => m.2.text?.map fun session => (m.1, session)) = t.entries := by
    rw [h, List.filterMap_map]
    exact congrFun (List.filterMap_eq_map (f := Json.Member.entry)) ms
  apply Table.ext
  rw [SessionTable.ofDocument, Json.members, hmembers, htexts]
  exact Table.entries_ofList t.nodup_keys

/-- The file of a table without lone surrogates. -/
theorem bytes?_of_members {s : SessionStore} {ms : List Json.Member}
    (h : s.sessions.entries = ms.map Json.Member.entry) :
    s.bytes? = some (Text.encode (String.ofList ('\x7b' :: (Json.tableRest ms ++ ['\n'])))) := by
  have hfile : s.sessions.fileText = ofChars ('\x7b' :: (Json.tableRest ms ++ ['\n'])) := by
    rw [SessionTable.fileText, h, Json.writeTable_entries, ← List.cons_append, Json.ofChars_append]
    rfl
  exact Text.Wide.encodeWide?_eq_some_iff.mpr ⟨_, hfile, rfl⟩

/-- Only a table without lone surrogates can be written. -/
theorem members_of_bytes? {s : SessionStore} {contents : Disk.Bytes}
    (h : s.bytes? = some contents) :
    ∃ ms : List Json.Member, s.sessions.entries = ms.map Json.Member.entry := by
  obtain ⟨cs, hcs, -⟩ := Text.Wide.encodeWide?_eq_some_iff.mp h
  refine Json.exists_members fun code hmem => ?_
  have hfile : .lone code ∈ s.sessions.fileText := List.mem_append_left _ hmem
  rw [hcs] at hfile
  exact Text.Wide.not_lone_mem_ofChars hfile

/-- What is written of a store is read as its sessions, however few levels may be nested: the file
has one. -/
theorem parseWithin_bytes? {s : SessionStore} {contents : Disk.Bytes} (levels : Nat)
    (h : s.bytes? = some contents) : parseWithin (levels + 1) contents = .ok s.sessions := by
  obtain ⟨ms, hms⟩ := members_of_bytes? h
  cases (bytes?_of_members hms).symm.trans h
  have hreturn : '\r' ∉
      (String.ofList ('\x7b' :: (Json.tableRest ms ++ ['\n']))).toList := by
    rw [String.toList_ofList]
    simp [Json.tableRest_no_return]
  rw [parseWithin, Text.readFile?_encode hreturn]
  dsimp only
  rw [Json.read_table levels ms]
  exact congrArg Except.ok (ofDocument_read hms)

/-- What is written of a store is read as its sessions. -/
theorem parse_bytes? {s : SessionStore} {contents : Disk.Bytes} (h : s.bytes? = some contents) :
    parse contents = .ok s.sessions := parseWithin_bytes? 984 h

/-! ## Opening a store -/

/-- What a failure to read the file leads to. -/
def recovered : Failure → Except Failure SessionTable
  | .disk _ => .ok .empty
  | e => if e.isValueError then .ok .empty else .error e

/-- The sessions that a store is opened with, for the contents of its file. -/
def opened : Option Disk.Bytes → Except Failure SessionTable
  | none => .ok .empty
  | some contents =>
    match parse contents with
    | .error e => recovered e
    | .ok sessions => .ok sessions

/-- No request of a record was refused. -/
def Unrefused (os : List (Event Disk.service)) : Prop := ∀ q e, .asked q (.error e) ∉ os

variable {f f' : Files} {os : List (Event Disk.service)}

/-- A failure to read the file is logged and counts as an empty file, or it is passed on. -/
theorem recover_cases (e : Failure) :
    (recovered e = .ok .empty ∧ ∃ line, recover e = .say line (.done (.ok .empty))) ∨
      (recovered e = .error e ∧ recover e = .done (.error e)) := by
  by_cases hdisk : ∃ refusal, e = .disk refusal
  · obtain ⟨refusal, rfl⟩ := hdisk
    exact .inl ⟨rfl, _, rfl⟩
  · have hne : ∀ refusal, e = .disk refusal → False := fun refusal heq => hdisk ⟨refusal, heq⟩
    rw [recovered.eq_2 e hne, recover.eq_2 e hne]
    by_cases hvalue : e.isValueError = true
    · rw [if_pos hvalue, if_pos hvalue]
      exact .inl ⟨rfl, _, rfl⟩
    · rw [if_neg hvalue, if_neg hvalue]
      exact .inr ⟨rfl, rfl⟩

/-- Recovering from a failure asks nothing. -/
theorem recovered_of_plays {e : Failure} {r : Except Failure SessionTable}
    (h : (recover e).Plays os r) (hos : Along Partly f os f') : r = recovered e ∧ f' = f := by
  rcases recover_cases e with ⟨hempty, line, hsay⟩ | ⟨herror, hdone⟩
  · rw [hsay] at h
    cases h with
    | say h =>
      cases h
      cases hos with
      | said later =>
        cases later
        exact ⟨hempty.symm, rfl⟩
  · rw [hdone] at h
    cases h
    cases hos
    exact ⟨herror.symm, rfl⟩

/-- What comes behind the start of a record without refusals has none either. -/
theorem Unrefused.tail {o : Event Disk.service} (h : Unrefused (o :: os)) : Unrefused os :=
  fun q e hmem => h q e (List.mem_cons_of_mem _ hmem)

/-- A request that is refused is a refusal. -/
theorem Unrefused.granted {q : Disk.Request} {e : Failure} :
    ¬Unrefused (.asked q (.error e) :: os) :=
  fun h => h q e List.mem_cons_self

/-- A file is read as what it holds, and stays as it is. -/
theorem opened_of_load {path : Path} {r : Except Failure SessionTable}
    (h : (load path).Plays os r) (hos : Along Partly f os f') (hall : Unrefused os) :
    r = opened (f path.toText) ∧ f' = f := by
  cases h with
  | ask reply h =>
    match reply with
    | .error e => exact absurd hall Unrefused.granted
    | .ok false =>
      cases h
      cases hos with
      | granted tells later =>
        cases later
        have hnone : f path.toText = none := by
          rw [← Option.not_isSome_iff_eq_none, ← show false = _ from tells]
          exact Bool.false_ne_true
        rw [hnone]
        exact ⟨rfl, rfl⟩
    | .ok true =>
      cases hos with
      | granted _ hos =>
        cases h with
        | ask reply h =>
          match reply with
          | .error e => exact absurd hall.tail Unrefused.granted
          | .ok (contents : Disk.Bytes) =>
            cases hos with
            | granted tells hos =>
              have hsome : f path.toText = some contents := tells
              rw [hsome, opened]
              dsimp only at h
              cases hparse : parse contents with
              | error e =>
                rw [hparse] at h
                exact recovered_of_plays h hos
              | ok sessions =>
                rw [hparse] at h
                cases h
                cases hos
                exact ⟨rfl, rfl⟩

/-- A store is opened with the sessions of its file, and the file stays as it is. -/
theorem opened_of_openAt {path : Path} {r : Except Failure SessionStore}
    (h : (openAt path).Plays os r) (hos : Along Partly f os f') (hall : Unrefused os) :
    r = (opened (f path.toText)).map (⟨path, ·⟩) ∧ f' = f := by
  obtain ⟨first, second, loaded, rfl, hfirst, hsecond⟩ := Dialogue.plays_bind.mp h
  obtain ⟨f₁, hbefore, hafter⟩ := Disk.along_append.mp hos
  have hunrefused : Unrefused first := fun q e hmem => hall q e (List.mem_append_left _ hmem)
  obtain ⟨rfl, rfl⟩ := opened_of_load hfirst hbefore hunrefused
  cases hopened : opened (f₁ path.toText) with
  | error e =>
    rw [hopened] at hsecond
    cases hsecond
    cases hafter
    exact ⟨rfl, rfl⟩
  | ok sessions =>
    rw [hopened] at hsecond
    cases hsecond
    cases hafter
    exact ⟨rfl, rfl⟩

/-! ## Saved changes -/

/-- The file stands for the sessions in memory. -/
def Stands (s : SessionStore) (f : Files) : Prop := opened (f s.path.toText) = .ok s.sessions

/-- A file that was saved without a failure stands for the sessions. -/
theorem stands_of_save {s : SessionStore} (hname : s.path.name ≠ "")
    (h : s.save.Plays os (.ok ())) (hquiet : os.filterMap Event.line? = [])
    (hos : Along Partly f os f') : s.Stands f' := by
  obtain ⟨contents, hbytes, hfile⟩ := saved_of_save hname h hquiet hos
  rw [Stands, hfile, opened, parse_bytes? hbytes]

/-- Changes that are made one after the other, each of them saved without a failure, and what
becomes of the files that nobody else writes. -/
inductive Saves : SessionStore → Files → List SessionChange → SessionStore → Files → Prop where
  | nil (s : SessionStore) (f : Files) : Saves s f [] s f
  | cons {s s' : SessionStore} {f f₁ f' : Files} {c : SessionChange} {cs : List SessionChange}
      {os : List (Event Disk.service)} (plays : (s.change c).2.Plays os (.ok ()))
      (quiet : os.filterMap Event.line? = []) (along : Along Partly f os f₁)
      (later : Saves (s.change c).1 f₁ cs s' f') : Saves s f (c :: cs) s' f'

variable {s s' : SessionStore} {cs cs' : List SessionChange}

/-- Changes that are saved one after the other can be split in two. -/
theorem Saves.split (h : Saves s f (cs ++ cs') s' f') :
    ∃ s₁ f₁, Saves s f cs s₁ f₁ ∧ Saves s₁ f₁ cs' s' f' := by
  induction cs generalizing s f with
  | nil => exact ⟨s, f, .nil s f, h⟩
  | cons c cs ih =>
    cases h with
    | cons plays quiet along later =>
      obtain ⟨s₁, f₁, hfirst, hsecond⟩ := ih later
      exact ⟨s₁, f₁, .cons plays quiet along hfirst, hsecond⟩

/-- The sessions in memory are those after the changes. -/
theorem Saves.remembered (h : Saves s f cs s' f') : s' = cs.foldl remember s := by
  induction h with
  | nil => rfl
  | cons _ _ _ _ ih => exact ih

/-- No change moves the file. -/
theorem path_foldl_remember (cs : List SessionChange) :
    (cs.foldl remember s).path = s.path := by
  induction cs generalizing s with
  | nil => rfl
  | cons c cs ih => exact ih

/-- After every change that is saved the file stands for the sessions in memory. -/
theorem Stands.change (hname : s.path.name ≠ "") (hstands : s.Stands f) {c : SessionChange}
    (h : (s.change c).2.Plays os (.ok ())) (hquiet : os.filterMap Event.line? = [])
    (hos : Along Partly f os f') : (s.change c).1.Stands f' := by
  cases hsaved : s.isSaved c with
  | true =>
    have hsave : (s.remember c).save.Plays os (.ok ()) := by
      rw [SessionStore.change, hsaved, if_pos rfl] at h
      exact h
    exact stands_of_save (s := s.remember c) hname hsave hquiet hos
  | false =>
    rw [SessionStore.change, hsaved, if_neg Bool.false_ne_true] at h
    cases h
    cases hos
    have hsame : (s.change c).1 = s := remember_of_not_saved hsaved
    rw [hsame]
    exact hstands

/-- After any changes that are saved the file stands for the sessions in memory. -/
theorem Saves.stands (h : Saves s f cs s' f') (hname : s.path.name ≠ "") (hstands : s.Stands f) :
    s'.Stands f' := by
  induction h with
  | nil => exact hstands
  | cons plays quiet along _ ih => exact ih hname (hstands.change hname plays quiet along)

/-- A store that is opened on the file of another one has its sessions. -/
theorem Stands.opened (h : s.Stands f) {r : Except Failure SessionStore}
    (hopen : (openAt s.path).Plays os r) (hos : Along Partly f os f') (hall : Unrefused os) :
    r = .ok s ∧ f' = f := by
  obtain ⟨hr, hf⟩ := opened_of_openAt hopen hos hall
  rw [Stands] at h
  rw [hr, h]
  exact ⟨rfl, hf⟩

/-- A store that is opened has the sessions that its file stands for. -/
theorem stands_of_opened {path : Path} (hopen : (openAt path).Plays os (.ok s))
    (hos : Along Partly f os f') (hall : Unrefused os) : s.Stands f' ∧ s.path = path := by
  obtain ⟨hr, rfl⟩ := opened_of_openAt hopen hos hall
  rw [Stands]
  cases hopened : SessionStore.opened (f' path.toText) with
  | error e =>
    rw [hopened] at hr
    cases hr
  | ok sessions =>
    rw [hopened] at hr
    cases hr
    exact ⟨hopened, rfl⟩

end SessionStore

/-! ## The engine over a restart -/

/-- An engine is made with the sessions of the store. -/
theorem Engine.sessions_of_make {config : Config} {sessions : SessionTable} {e : Engine}
    {os : List (Event Disk.service)} (h : (Engine.make config sessions).Plays os (.ok e)) :
    e.sessions = sessions := by
  obtain ⟨first, second, loaded, rfl, hfirst, hsecond⟩ := Dialogue.plays_bind.mp h
  cases loaded with
  | error failure => cases hsecond
  | ok systemPrompt =>
    cases hsecond
    rfl

/-- What the store is told in a run makes its sessions those of the engine. -/
theorem Situation.remembered_run (config : Config) (systemPrompt : Option String)
    (store : SessionStore) (ms : List Move) :
    (((start config systemPrompt store.sessions).run ms).changes.foldl SessionStore.remember
      store).sessions = ((start config systemPrompt store.sessions).run ms).engine.sessions := by
  have hrun := run_induction (P := fun s => s.Fit ∧
      (s.changes.foldl SessionStore.remember store).sessions = s.engine.sessions)
    (fun s m h => ⟨h.1.after m, (h.1.tells m).store h.2⟩)
    ⟨fit_start config systemPrompt store.sessions, rfl⟩ ms
  exact hrun.2

namespace SessionStore

/-- **Sessions survive a restart.** A store is opened, whatever its file holds, and changes are made
and saved one after the other. After any part of them, a store that is opened on the same path is
the old one, with the sessions in the same order. If the changes are those of a run of an engine,
these are the sessions of the engine: an engine that is made with them has the same session in every
channel, and as long as a channel is not reset, its turns resume the session that is reported in it,
and the one that the old engine had where none is. -/
theorem sessions_survive_restart {path : Path} (hname : path.name ≠ "") {f f₀ f₂ : Files}
    {os : List (Event Disk.service)} {s s₂ : SessionStore} {cs later : List SessionChange}
    (hopen : (openAt path).Plays os (.ok s)) (hos : Along Partly f os f₀) (hall : Unrefused os)
    (hsaves : Saves s f₀ (cs ++ later) s₂ f₂) :
    ∃ s₁ f₁, Saves s f₀ cs s₁ f₁ ∧ Saves s₁ f₁ later s₂ f₂ ∧ s₁ = cs.foldl remember s ∧
      (∀ os r f', (openAt path).Plays os r → Along Partly f₁ os f' → Unrefused os →
        r = .ok s₁ ∧ f' = f₁) ∧
      ∀ config systemPrompt ms,
        let old := (Situation.start config systemPrompt s.sessions).run ms
        old.changes = cs →
          (∀ config' os e, (Engine.make config' s₁.sessions).Plays os (.ok e) →
            ∀ c, e.sessions.session? c = old.engine.sessions.session? c) ∧
          ∀ config' systemPrompt' ms' c before i turn after,
            ((Situation.start config' systemPrompt' s₁.sessions).run ms').recordOf c =
              before ++ .worked i c (.asked (.agent (.start turn))) :: after →
            ¬Memory.Resets before →
              turn.session =
                (Memory.lastReported before).or (old.engine.sessions.session? c) := by
  obtain ⟨s₁, f₁, hfirst, hsecond⟩ := hsaves.split
  obtain ⟨hstands, hpath⟩ := stands_of_opened hopen hos hall
  have hs₁ := hfirst.remembered
  have hpath₁ : s₁.path = path := by
    rw [hs₁, path_foldl_remember, hpath]
  have hstands₁ := hfirst.stands (hpath ▸ hname) hstands
  refine ⟨s₁, f₁, hfirst, hsecond, hs₁, fun os r f' hreopen hos' hall' => ?_,
    fun config systemPrompt ms => ?_⟩
  · rw [← hpath₁] at hreopen
    exact hstands₁.opened hreopen hos' hall'
  · intro old hchanges
    have hsessions : s₁.sessions = old.engine.sessions := by
      rw [hs₁, ← hchanges]
      exact Situation.remembered_run config systemPrompt s ms
    rw [hsessions]
    refine ⟨fun config' os e hmake c => ?_,
      fun config' systemPrompt' ms' c before i turn after => Situation.turn_resumes⟩
    rw [Engine.sessions_of_make hmake]

/-- A file that is not encoded is as good as an empty one, and it is said so. -/
theorem plays_openAt_junk (path : Path) :
    (openAt path).Plays [.asked (.isThere path.toText) (.ok true),
      .asked (.read path.toText) (.ok [0xff]), .said (loadFailed Failure.undecodable.message)]
      (.ok ⟨path, .empty⟩) := by
  have hparse : parse [0xff] = .error .undecodable := by rfl
  refine Dialogue.plays_bind.mpr ⟨_, [], .ok .empty, (List.append_nil _).symm, ?_, .done _⟩
  refine .ask (P := Disk.service) (q := .isThere path.toText) (.ok true)
    (.ask (P := Disk.service) (q := .read path.toText) (.ok [0xff]) ?_)
  dsimp only
  rw [hparse]
  exact .say (.done _)

/-- Over a file that holds no document a session is set, and then one is deleted that is not there.
The store that is opened next has the session. -/
theorem sessions_survive_restart_junk :
    let path : Path := ⟨"", [".sessions.json"]⟩
    let junk : Disk.Bytes := [0xff]
    let s : SessionStore := ⟨path, .empty⟩
    let os : List (Event Disk.service) := [.asked (.isThere path.toText) (.ok true),
      .asked (.read path.toText) (.ok junk),
      .said (loadFailed Failure.undecodable.message)]
    let cs : List SessionChange := [.set "1" "a\n\"\u2028", .delete "2"]
    path.name ≠ "" ∧ (openAt path).Plays os (.ok s) ∧ ∃ s₁ f₁, s₁ = cs.foldl remember s ∧
      s₁.sessions.session? "1" = some "a\n\"\u2028" ∧
      ∀ os r f', (openAt path).Plays os r → Along Partly f₁ os f' → Unrefused os → r = .ok s₁ := by
  intro path junk s os cs
  have hname : path.name ≠ "" := by decide
  let f : Files := fun _ => some junk
  have hopen : (openAt path).Plays os (.ok s) := plays_openAt_junk path
  have hos : Along Partly f os f := .granted rfl (.granted rfl (.said (.nil f)))
  have hall : Unrefused os := by
    intro q e hmem
    rcases List.mem_cons.mp hmem with heq | hmem
    · cases heq
    · rcases List.mem_cons.mp hmem with heq | hmem
      · cases heq
      · cases List.mem_singleton.mp hmem
  -- The first change is saved, and the second one need not be.
  let c : SessionChange := .set "1" "a\n\"\u2028"
  have hentries : (s.remember c).sessions.entries =
      [("1".toList, "a\n\"\u2028".toList)].map Json.Member.entry := rfl
  have hset : (s.change c).2.Plays _ (.ok ()) :=
    plays_save (s := s.remember c) hname (bytes?_of_members hentries)
  have hdelete : ((s.remember c).change (.delete "2")).2.Plays [] (.ok ()) := by
    have hnot : (s.remember c).isSaved (.delete "2") = false := by rfl
    rw [change, hnot, if_neg Bool.false_ne_true]
    exact .done _
  have hsaves : ∃ s₂ f₂, Saves s f (cs ++ []) s₂ f₂ :=
    ⟨_, _, .cons hset rfl (.granted trivial (.granted trivial (.granted trivial (.nil _))))
      (.cons hdelete rfl (.nil _) (.nil _ _))⟩
  obtain ⟨s₂, f₂, hsaves⟩ := hsaves
  obtain ⟨s₁, f₁, -, -, hs₁, hreopen, -⟩ := sessions_survive_restart hname hopen hos hall hsaves
  refine ⟨hname, hopen, s₁, f₁, hs₁, ?_, fun os r f' h hos' hall' => ?_⟩
  · rw [hs₁]
    rfl
  · exact (hreopen os r f' h hos' hall').1

end SessionStore

end ChatRelay
