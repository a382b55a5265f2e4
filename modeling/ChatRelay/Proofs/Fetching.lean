import ChatRelay.Proofs.Aside
import ChatRelay.Proofs.Files
import ChatRelay.Proofs.Path
import ChatRelay.Proofs.Play
import Mathlib.Data.List.Basic
import Mathlib.Data.List.Nodup

/-!
# Fetched files

`Attachment.Fetch` is one attachment that was fetched, with its fresh name and its contents, and
`Attachment.Fetches` lists the ways on which fetching can go: all attachments are fetched, or one of
them breaks and those before it are removed. `Attachment.Kept` says that the own files on the disk
are those of certain attachments. It is kept by every request: fetching adds files to it, and
removing takes them away.

So what was downloaded is on the disk (`Attachment.kept_of_downloaded`), and what could not be
downloaded has left nothing there (`Attachment.kept_of_failed`).
-/

namespace ChatRelay

open Dialogue (Event)
open Disk (Files Shared)

namespace Work

/-- A request that is made to fetch a file. -/
def Request.IsFetch : Request → Prop
  | .outside (.disk (.makeDirectory _)) | .outside (.disk (.write _ _)) => True
  | .outside (.web _) | .outside .freshName => True
  | _ => False

/-- The request to the disk that an event of a unit of work is, with its reply. -/
def diskCall? : Event service → Option (Event Disk.service)
  | .asked (.outside (.disk q)) reply => some (.asked q reply)
  | _ => none

/-- The fresh name that is given, where one is. -/
def freshName? : Event service → Option String
  | .asked (.outside .freshName) (.ok (unique : String)) => some unique
  | _ => none

/-- A file is written at a path, or was to be written there. -/
def Writes (os : List (Event service)) (path : String) : Prop :=
  ∃ contents, .outside (.disk (.write path contents)) ∈ os.filterMap Event.request?

/-- A request that is made to fetch a file is refused, with this failure. -/
def Refuses (os : List (Event service)) (e : Failure) : Prop :=
  ∃ q : Request, q.IsFetch ∧ Event.asked q (.error e) ∈ os

/-- A request is refused in one part of a record or in the other. -/
theorem refuses_append {os os' : List (Event service)} {e : Failure} :
    Refuses (os ++ os') e ↔ Refuses os e ∨ Refuses os' e := by
  simp only [Refuses, List.mem_append, and_or_left, exists_or]

/-- Where nothing happens, nothing is refused. -/
theorem not_refuses_nil (e : Failure) : ¬Refuses [] e := by
  rintro ⟨q, -, hmem⟩
  cases hmem

/-- A request that is granted is not refused. -/
theorem Refuses.of_granted {q : Request} {value : Value q} {os : List (Event service)}
    {e : Failure} (h : Refuses (.asked q (.ok value) :: os) e) : Refuses os e := by
  obtain ⟨q', hq', hmem⟩ := h
  rcases List.mem_cons.mp hmem with heq | hmem
  · cases heq
  · exact ⟨q', hq', hmem⟩

/-- One request is refused with one failure. -/
theorem Refuses.failure_eq {q : Request} {e e' : Failure}
    (h : Refuses [.asked q (.error e)] e') : e' = e := by
  obtain ⟨q', -, hmem⟩ := h
  cases List.mem_singleton.mp hmem
  rfl

/-- Where nothing is asked to fetch a file, no such request is refused. -/
theorem not_refuses_of_asks {os : List (Event service)}
    (h : ∀ q ∈ os.filterMap Event.request?, ¬q.IsFetch) (e : Failure) : ¬Refuses os e := by
  rintro ⟨q, hq, hmem⟩
  exact h q (List.mem_filterMap.mpr ⟨_, hmem, rfl⟩) hq

/-- A request that has to do with no file fetches none. -/
theorem not_isFetch_of_not_isFile {q : Request} (h : ¬q.IsFile) : ¬q.IsFetch := by
  match q with
  | .outside (.disk (.makeDirectory _)) | .outside (.disk (.write _ _)) => exact fun _ => h trivial
  | .outside (.web _) | .outside .freshName => exact fun _ => h trivial
  | .outside (.disk (.remove _)) | .outside (.disk (.read _)) => exact id
  | .outside (.disk (.isThere _)) | .outside (.disk (.rename _ _)) => exact id
  | .outside (.chat _) | .outside (.agent _) | .outside (.store _) => exact id
  | .recall | .report _ => exact id

end Work

open Work (diskCall? freshName? Writes Refuses refuses_append)

namespace Attachment

/-! ## Names -/

/-- What is put behind a fresh name: the extension of the attached file, or `.bin`. -/
def extension (attached : String) : String :=
  if Path.extensionOf attached = "" then ".bin" else Path.extensionOf attached

/-- The extension of a file is a dot, and more without dots and slashes behind it. -/
theorem extension_starts (attached : String) :
    ∃ tail, (extension attached).toList = '.' :: tail ∧ '.' ∉ tail ∧ '/' ∉ tail := by
  unfold extension
  split
  · exact ⟨['b', 'i', 'n'], by decide, by decide, by decide⟩
  · rename_i hne
    exact (Path.extensionOf_cases attached).resolve_left hne

/-- A fresh name is not empty, and it has no dots and no slashes. -/
structure IsPlain (unique : String) : Prop where
  ne_empty : unique ≠ ""
  plain : ∀ c ∈ unique.toList, c ≠ '.' ∧ c ≠ '/'

/-- An attachment that was fetched: the fresh name for it, and what its file contains. -/
structure Fetch where
  attachment : Incoming.Attachment
  unique : String
  contents : Disk.Bytes

namespace Fetch

/-- Where the file is. -/
def path (directory : Path) (x : Fetch) : String :=
  (directory.child (fileName x.unique x.attachment.fileName)).toText

/-- The name is given. -/
def named (x : Fetch) : Event Work.service := .asked (.outside .freshName) (.ok x.unique)

/-- The contents are read. -/
def read (x : Fetch) : Event Work.service :=
  .asked (.outside (.web x.attachment.url)) (.ok x.contents)

/-- The file is written, or is refused to be. -/
def write (directory : Path) (x : Fetch) (reply : Except Failure Unit) : Event Work.service :=
  .asked (.outside (.disk (.write (x.path directory) x.contents))) reply

/-- All that is asked for the attachment. -/
def record (directory : Path) (x : Fetch) : List (Event Work.service) :=
  [x.named, x.read, x.write directory (.ok ())]

/-- The file has the extension of the attached file, or `.bin` if that has none. -/
theorem extensionOf_path {directory : String} {x : Fetch} (h : IsPlain x.unique) :
    Path.extensionOf (x.path (Path.ofText directory)) = extension x.attachment.fileName := by
  obtain ⟨tail, htail, hdot, hslash⟩ := extension_starts x.attachment.fileName
  have hname : '/' ∉ (fileName x.unique x.attachment.fileName).toList := by
    have hlist : (fileName x.unique x.attachment.fileName).toList =
        x.unique.toList ++ '.' :: tail := by
      rw [← htail, ← String.toList_append]
      rfl
    rw [hlist, List.mem_append, List.mem_cons, not_or, not_or]
    exact ⟨fun hmem => (h.plain _ hmem).2 rfl, by decide, hslash⟩
  rw [path, Path.extensionOf_child directory hname]
  exact Path.extensionOf_of_plain h.ne_empty h.plain htail hdot hslash

/-- Different names make different files. -/
theorem unique_eq_of_path {directory : Path} {x y : Fetch} (hx : IsPlain x.unique)
    (hy : IsPlain y.unique) (h : x.path directory = y.path directory) : x.unique = y.unique := by
  obtain ⟨tail, htail, -, -⟩ := extension_starts x.attachment.fileName
  obtain ⟨tail', htail', -, -⟩ := extension_starts y.attachment.fileName
  have hstart : ∀ {unique : String} (tail : List Char), IsPlain unique →
      (unique.toList ++ '.' :: tail).takeWhile (· ≠ '.') = unique.toList := by
    intro unique tail hplain
    have hall : ∀ c ∈ unique.toList, decide (c ≠ '.') = true := fun c hc =>
      decide_eq_true (hplain.plain c hc).1
    rw [List.takeWhile_append_of_pos hall, List.takeWhile_cons_of_neg (by decide), List.append_nil]
  have hnames : x.unique ++ extension x.attachment.fileName =
      y.unique ++ extension y.attachment.fileName := Path.toText_child_inj.mp h
  have hlists := congrArg String.toList hnames
  rw [String.toList_append, String.toList_append, htail, htail'] at hlists
  apply String.toList_injective
  rw [← hstart tail hx, hlists, hstart tail' hy]

/-- Files with different names are at different paths. -/
theorem nodup_paths {directory : Path} {xs : List Fetch} (hnames : (xs.map unique).Nodup)
    (hplain : ∀ x ∈ xs, IsPlain x.unique) : (xs.map (path directory)).Nodup := by
  rw [List.Nodup, List.pairwise_map] at hnames ⊢
  refine hnames.imp_of_mem fun {x y} hx hy hne hpath => hne ?_
  exact unique_eq_of_path (hplain x hx) (hplain y hy) hpath

/-- The names on record are those of the attachments. -/
theorem names_record (directory : Path) (xs : List Fetch) :
    (xs.flatMap (record directory)).filterMap freshName? = xs.map unique := by
  rw [List.filterMap_flatMap, List.map_eq_flatMap]
  exact List.flatMap_congr fun x _ => rfl

/-- Where all is granted, nothing is refused. -/
theorem not_refuses_record (directory : Path) (xs : List Fetch) (e : Failure) :
    ¬Refuses (xs.flatMap (record directory)) e := by
  intro h
  induction xs with
  | nil => exact Work.not_refuses_nil e h
  | cons x rest ih => exact ih h.of_granted.of_granted.of_granted

end Fetch

/-! ## The ways of fetching -/

variable {directory : Path} {attachments : List Incoming.Attachment}
  {os : List (Event Work.service)} {r : Except Failure (List String)} {e : Failure}

/-- The record of an attachment that cannot be fetched, with the failure. -/
inductive Breaks (directory : Path) : List (Event Work.service) → Failure → Prop where
  | unnamed (e : Failure) : Breaks directory [.asked (.outside .freshName) (.error e)] e
  | unread (x : Fetch) (e : Failure) :
    Breaks directory [x.named, .asked (.outside (.web x.attachment.url)) (.error e)] e
  | unwritten (x : Fetch) (e : Failure) :
    Breaks directory [x.named, x.read, x.write directory (.error e)] e

/-- Only one request is refused. -/
theorem Breaks.failure_eq {broken : List (Event Work.service)} {e' : Failure}
    (h : Breaks directory broken e) (hrefuses : Refuses broken e') : e' = e := by
  cases h with
  | unnamed e => exact hrefuses.failure_eq
  | unread x e => exact hrefuses.of_granted.failure_eq
  | unwritten x e => exact hrefuses.of_granted.of_granted.failure_eq

/-- Nothing is fetched when files are removed. -/
theorem fetchless_cleanup (paths : List String) :
    (Work.ofOutside (cleanup paths)).Asks fun q : Work.Request => ¬q.IsFetch := by
  refine Dialogue.asks_via (removes_cleanup paths) fun q hq => ?_
  match q with
  | .disk (.remove _) => exact ⟨id, fun _ => trivial⟩

/-- Where files are removed, no request to fetch one is refused. -/
theorem not_refuses_cleaning {paths : List String} {outcome : Except Failure Unit}
    (h : (Work.ofOutside (cleanup paths)).Plays os outcome) (e : Failure) : ¬Refuses os e :=
  Work.not_refuses_of_asks (h.asks (fetchless_cleanup paths)) e

/-- The failure that is passed on when files were removed after another one. -/
def lastFailure (e : Failure) : Except Failure Unit → Failure
  | .ok () => e
  | .error e' => e'

/-- The ways on which fetching attachments can go. -/
inductive Fetches (directory : Path) : List Incoming.Attachment → List (Event Work.service) →
    Except Failure (List String) → Prop where
  | all (xs : List Fetch) : Fetches directory (xs.map Fetch.attachment)
      (xs.flatMap (Fetch.record directory)) (.ok (xs.map (Fetch.path directory)))
  | some (xs : List Fetch) {attachments : List Incoming.Attachment}
      {broken cleaning : List (Event Work.service)} {e : Failure} {outcome : Except Failure Unit}
      (breaks : Breaks directory broken e)
      (cleaned : (Work.ofOutside (cleanup (xs.map (Fetch.path directory)))).Plays cleaning
        outcome) :
      Fetches directory attachments
        (xs.flatMap (Fetch.record directory) ++ (broken ++ cleaning))
        (.error (lastFailure e outcome))

/-- Giving up removes what was written, and fails with the last failure. -/
theorem cleaned_of_giveUp {written : List String}
    (h : (Work.ofOutside (giveUp written e)).Plays os r) :
    ∃ outcome, (Work.ofOutside (cleanup written)).Plays os outcome ∧
      r = .error (lastFailure e outcome) := by
  have hgiveUp : Work.ofOutside (giveUp written e) =
      (Work.ofOutside (cleanup written)).bind fun outcome =>
        .done (.error (lastFailure e outcome)) := by
    refine (Dialogue.via_bind _ (cleanup written) _).trans (congrArg _ (funext fun outcome => ?_))
    cases outcome <;> rfl
  rw [hgiveUp] at h
  obtain ⟨first, second, outcome, rfl, hfirst, hsecond⟩ := Dialogue.plays_bind.mp h
  cases hsecond
  rw [List.append_nil]
  exact ⟨outcome, hfirst, rfl⟩

/-- Fetching goes on from the attachments that were fetched before. -/
theorem fetches_of_plays (xs : List Fetch) (h : (Work.ofOutside
      (fetchAll directory (xs.map (Fetch.path directory)) attachments)).Plays os r) :
    Fetches directory (xs.map Fetch.attachment ++ attachments)
      (xs.flatMap (Fetch.record directory) ++ os) r := by
  -- Every attachment adds to the files so far, so the induction is for all of them.
  induction attachments generalizing xs os with
  | nil =>
    cases h
    rw [List.append_nil, List.append_nil]
    exact .all xs
  | cons a rest ih =>
    -- Wherever fetching breaks off, the files so far are removed.
    have hbroken : ∀ {broken cleaning : List (Event Work.service)} {e : Failure},
        Breaks directory broken e →
        (Work.ofOutside (giveUp (xs.map (Fetch.path directory)) e)).Plays cleaning r →
        Fetches directory (xs.map Fetch.attachment ++ a :: rest)
          (xs.flatMap (Fetch.record directory) ++ (broken ++ cleaning)) r := by
      intro broken cleaning e hbreaks hgiveUp
      obtain ⟨outcome, hcleaned, rfl⟩ := cleaned_of_giveUp hgiveUp
      exact .some xs hbreaks hcleaned
    cases h with
    | ask reply h =>
      match reply, h with
      | .error e, h => exact hbroken (.unnamed e) h
      | .ok (unique : String), h =>
        cases h with
        | ask reply h =>
          match reply, h with
          | .error e, h => exact hbroken (.unread ⟨a, unique, []⟩ e) h
          | .ok (contents : Disk.Bytes), h =>
            cases h with
            | ask reply h =>
              match reply, h with
              | .error e, h => exact hbroken (.unwritten ⟨a, unique, contents⟩ e) h
              | .ok (), h =>
                have hpaths : xs.map (Fetch.path directory) ++
                    [(directory.child (fileName unique a.fileName)).toText] =
                    (xs ++ [(⟨a, unique, contents⟩ : Fetch)]).map (Fetch.path directory) := by
                  rw [List.map_append]
                  rfl
                dsimp only at h
                rw [hpaths] at h
                have hrest := ih _ h
                rw [List.map_append, List.append_assoc, List.flatMap_append, List.append_assoc]
                  at hrest
                exact hrest

/-- The directory is made, if there is anything to be fetched. -/
def opening (directory : Path) (attachments : List Incoming.Attachment) :
    List (Event Work.service) :=
  if attachments.isEmpty then []
  else [.asked (.outside (.disk (.makeDirectory directory.toText))) (.ok ())]

/-- No name is taken to make the directory. -/
theorem names_opening (directory : Path) (attachments : List Incoming.Attachment) :
    (opening directory attachments).filterMap freshName? = [] := by
  unfold opening
  split <;> rfl

/-- Where the directory is made, no request is refused. -/
theorem not_refuses_opening (directory : Path) (attachments : List Incoming.Attachment)
    (e : Failure) : ¬Refuses (opening directory attachments) e := by
  intro h
  unfold opening at h
  split at h
  · exact Work.not_refuses_nil e h
  · exact Work.not_refuses_nil e h.of_granted

/-- A download ends at once where the directory cannot be made. Otherwise the attachments are
fetched behind that. -/
theorem fetches_of_download {directory : String}
    (h : (Work.ofOutside (download directory attachments)).Plays os r) :
    (∃ e, os = [.asked (.outside (.disk (.makeDirectory (Path.ofText directory).toText)))
        (.error e)] ∧ r = .error e) ∨
      ∃ os', os = opening (Path.ofText directory) attachments ++ os' ∧
        Fetches (Path.ofText directory) attachments os' r := by
  rw [download] at h
  rw [opening]
  cases hempty : attachments.isEmpty with
  | true =>
    rw [hempty] at h
    cases h
    rw [List.isEmpty_iff.mp hempty]
    exact .inr ⟨[], rfl, .all []⟩
  | false =>
    rw [hempty] at h
    cases h with
    | ask reply h =>
      match reply, h with
      | .error e, h =>
        cases h
        exact .inl ⟨e, rfl, rfl⟩
      | .ok (), h => exact .inr ⟨_, rfl, fetches_of_plays [] h⟩

/-- What was downloaded was not refused. -/
theorem not_refuses_of_downloaded {directory : String} {files : List String}
    (h : (Work.ofOutside (download directory attachments)).Plays os (.ok files)) (e : Failure) :
    ¬Refuses os e := by
  rcases fetches_of_download h with ⟨e', -, hr⟩ | ⟨os', rfl, hfetches⟩
  · cases hr
  · cases hfetches with
    | all xs =>
      rw [refuses_append, not_or]
      exact ⟨not_refuses_opening _ _ e, Fetch.not_refuses_record _ xs e⟩

/-- Where all is granted, all attachments are fetched. -/
theorem plays_fetchAll (written : List String) (xs : List Fetch) :
    (Work.ofOutside (fetchAll directory written (xs.map Fetch.attachment))).Plays
      (xs.flatMap (Fetch.record directory)) (.ok (written ++ xs.map (Fetch.path directory))) := by
  induction xs generalizing written with
  | nil =>
    have hnone : written ++ ([] : List Fetch).map (Fetch.path directory) = written :=
      List.append_nil written
    rw [hnone]
    exact .done _
  | cons x rest ih =>
    have hrest := ih (written ++ [x.path directory])
    rw [List.append_assoc] at hrest
    refine .ask (P := Work.service) (q := .outside .freshName) (.ok x.unique) ?_
    refine .ask (P := Work.service) (q := .outside (.web x.attachment.url)) (.ok x.contents) ?_
    exact .ask (P := Work.service)
      (q := .outside (.disk (.write (x.path directory) x.contents))) (.ok ()) hrest

/-- Attachments can all be fetched, each with its fresh name. -/
theorem plays_download (directory : String) (xs : List Fetch) :
    (Work.ofOutside (download directory (xs.map Fetch.attachment))).Plays
      (opening (Path.ofText directory) (xs.map Fetch.attachment) ++
        xs.flatMap (Fetch.record (Path.ofText directory)))
      (.ok (xs.map (Fetch.path (Path.ofText directory)))) := by
  cases xs with
  | nil => exact .done _
  | cons x rest =>
    exact .ask (P := Work.service)
      (q := .outside (.disk (.makeDirectory (Path.ofText directory).toText))) (.ok ())
      (plays_fetchAll [] (x :: rest))

/-! ## The files -/

/-- The own files are those of these attachments, each with its contents, and no others. -/
structure Kept (own : String → Prop) (directory : Path) (xs : List Fetch) (f : Files) : Prop where
  owned : ∀ x ∈ xs, own (x.path directory)
  apart : (xs.map (Fetch.path directory)).Nodup
  there : ∀ x ∈ xs, f (x.path directory) = some x.contents
  only : ∀ path, own path → path ∉ xs.map (Fetch.path directory) → f path = none

section Kept

variable {own : String → Prop} {xs : List Fetch} {x : Fetch} {f f' : Files}

namespace Kept

/-- Where no own file changes, they are the same. -/
theorem congr (h : Kept own directory xs f) (hsame : ∀ path, own path → f' path = f path) :
    Kept own directory xs f' where
  owned := h.owned
  apart := h.apart
  there x hx := (hsame _ (h.owned x hx)).trans (h.there x hx)
  only path hown hpath := (hsame path hown).trans (h.only path hown hpath)

/-- One more file is written. -/
theorem add (h : Kept own directory xs f) (hown : own (x.path directory))
    (hnew : x.path directory ∉ xs.map (Fetch.path directory)) :
    Kept own directory (xs ++ [x]) (f.set (x.path directory) (some x.contents)) where
  owned := List.forall_mem_append.mpr ⟨h.owned, List.forall_mem_singleton.mpr hown⟩
  apart := by
    rw [List.map_append, List.map_singleton, List.nodup_append]
    refine ⟨h.apart, List.nodup_singleton _, fun path hpath path' hpath' heq => hnew ?_⟩
    rwa [← List.mem_singleton.mp hpath', ← heq]
  there := by
    refine List.forall_mem_append.mpr ⟨fun y hy => ?_, List.forall_mem_singleton.mpr ?_⟩
    · have hne : y.path directory ≠ x.path directory := fun heq =>
        hnew (heq ▸ List.mem_map_of_mem hy)
      rw [Files.set_of_ne f hne]
      exact h.there y hy
    · exact Files.set_self f _ _
  only path hpath hnone := by
    rw [List.map_append, List.map_singleton, List.mem_append, List.mem_singleton, not_or] at hnone
    rw [Files.set_of_ne f hnone.2]
    exact h.only path hpath hnone.1

/-- A file that could not be written is not there. -/
theorem lose (h : Kept own directory xs f) {path : String}
    (hnew : path ∉ xs.map (Fetch.path directory)) :
    Kept own directory xs (f.set path none) where
  owned := h.owned
  apart := h.apart
  there x hx := by
    have hne : x.path directory ≠ path := fun heq => hnew (heq ▸ List.mem_map_of_mem hx)
    rw [Files.set_of_ne f hne]
    exact h.there x hx
  only path' hpath' hnone := by
    rw [Files.set]
    split
    · rfl
    · exact h.only path' hpath' hnone

/-- The first file is removed. -/
theorem remove (h : Kept own directory (x :: xs) f) :
    Kept own directory xs (f.set (x.path directory) none) where
  owned y hy := h.owned y (List.mem_cons_of_mem x hy)
  apart := (List.nodup_cons.mp h.apart).2
  there y hy := by
    have hnew := (List.nodup_cons.mp h.apart).1
    have hne : y.path directory ≠ x.path directory := fun heq =>
      hnew (heq ▸ List.mem_map_of_mem hy)
    rw [Files.set_of_ne f hne]
    exact h.there y (List.mem_cons_of_mem x hy)
  only path hpath hnone := by
    by_cases heq : path = x.path directory
    · rw [heq]
      exact Files.set_self f _ _
    · rw [Files.set_of_ne f heq]
      exact h.only path hpath (List.not_mem_cons_of_ne_of_not_mem heq hnone)

/-- Further attachments are fetched. -/
theorem fetched {ys : List Fetch} (h : Kept own directory xs f)
    (hown : ∀ y ∈ ys, own (y.path directory))
    (hapart : ((xs ++ ys).map (Fetch.path directory)).Nodup)
    (hfiles : Shared own f ((ys.flatMap (Fetch.record directory)).filterMap diskCall?) f') :
    Kept own directory (xs ++ ys) f' := by
  induction ys generalizing xs f with
  | nil =>
    rw [List.append_nil]
    exact h.congr hfiles.of_nil
  | cons y rest ih =>
    obtain ⟨hy, hrest⟩ := List.forall_mem_cons.mp hown
    have hnew : y.path directory ∉ xs.map (Fetch.path directory) := by
      rw [List.map_append, List.nodup_append] at hapart
      exact fun hmem => hapart.2.2 _ hmem _ List.mem_cons_self rfl
    rw [← List.singleton_append, ← List.append_assoc] at hapart ⊢
    cases hfiles with
    | granted same later => exact ih ((h.add hy hnew).congr same) hrest hapart later

/-- An attachment cannot be fetched. -/
theorem broken {broken : List (Event Work.service)} (h : Kept own directory xs f)
    (hbreaks : Breaks directory broken e)
    (hnames : (xs.map Fetch.unique ++ broken.filterMap freshName?).Nodup)
    (hplain : ∀ unique ∈ xs.map Fetch.unique ++ broken.filterMap freshName?, IsPlain unique)
    (hfiles : Shared own f (broken.filterMap diskCall?) f') : Kept own directory xs f' := by
  cases hbreaks with
  | unnamed e => exact h.congr hfiles.of_nil
  | unread y e => exact h.congr hfiles.of_nil
  | unwritten y e =>
    have hunique : xs.map Fetch.unique ++ [y.unique] = (xs ++ [y]).map Fetch.unique := by
      rw [List.map_append, List.map_singleton]
    have hpaths : ((xs ++ [y]).map (Fetch.path directory)).Nodup := by
      refine Fetch.nodup_paths (hunique ▸ hnames) fun x hx => hplain _ ?_
      exact hunique ▸ List.mem_map_of_mem hx
    have hnew : y.path directory ∉ xs.map (Fetch.path directory) := by
      rw [List.map_append, List.nodup_append] at hpaths
      exact fun hmem => hpaths.2.2 _ hmem _ (List.mem_singleton.mpr rfl) rfl
    cases hfiles with
    | denied gone same later => exact ((h.lose hnew).congr same).congr later.of_nil

/-- All files are removed. -/
theorem cleaned {outcome : Except Failure Unit} (h : Kept own directory xs f)
    (hplays : (Work.ofOutside (cleanup (xs.map (Fetch.path directory)))).Plays os outcome)
    (hfiles : Shared own f (os.filterMap diskCall?) f') :
    outcome = .ok () ∧ Kept own directory [] f' := by
  induction xs generalizing f os with
  | nil =>
    cases hplays
    exact ⟨rfl, h.congr hfiles.of_nil⟩
  | cons x rest ih =>
    cases hplays with
    | ask reply hplays =>
      match reply, hplays with
      | .error e, _ =>
        cases hfiles with
        | denied gone same later =>
          have hgone := gone (x.path directory) rfl
          rw [h.there x List.mem_cons_self] at hgone
          cases hgone
      | .ok (), hplays =>
        cases hfiles with
        | granted same later => exact ih (h.remove.congr same) hplays later

end Kept

/-! ## Downloads -/

/-- What is taken for granted of the names and the files along a record: all files that are written
are own ones, and none of them is there before; the fresh names are different from each other and
have no dots and no slashes; and nobody else touches an own file. -/
structure Undisturbed (own : String → Prop) (os : List (Event Work.service)) (f f' : Files) :
    Prop where
  owned : ∀ path, Writes os path → own path
  free : ∀ path, own path → f path = none
  names : (os.filterMap freshName?).Nodup
  plain : ∀ unique ∈ os.filterMap freshName?, IsPlain unique
  files : Shared own f (os.filterMap diskCall?) f'

/-- The beginning of a record is undisturbed when all of it is. -/
theorem Undisturbed.split {os os' : List (Event Work.service)}
    (h : Undisturbed own (os ++ os') f f') :
    ∃ f₁, Undisturbed own os f f₁ ∧ Shared own f₁ (os'.filterMap diskCall?) f' := by
  obtain ⟨howned, hfree, hnames, hplain, hfiles⟩ := h
  rw [List.filterMap_append] at hnames hplain hfiles
  obtain ⟨f₁, hfirst, hsecond⟩ := hfiles.split
  refine ⟨f₁, ⟨fun path hpath => howned path ?_, hfree, (List.nodup_append.mp hnames).1,
    fun unique hmem => hplain unique (List.mem_append_left _ hmem), hfirst⟩, hsecond⟩
  obtain ⟨contents, hmem⟩ := hpath
  refine ⟨contents, ?_⟩
  rw [List.filterMap_append]
  exact List.mem_append_left _ hmem

/-- A directory is no own file. -/
theorem kept_of_opening (hfree : ∀ path, own path → f path = none)
    (hfiles : Shared own f ((opening directory attachments).filterMap diskCall?) f') :
    Kept own directory [] f' := by
  have hsame : ∀ path, own path → f' path = f path := by
    rw [opening] at hfiles
    cases hempty : attachments.isEmpty with
    | true =>
      rw [hempty] at hfiles
      exact hfiles.of_nil
    | false =>
      rw [hempty] at hfiles
      cases hfiles with
      | granted same later =>
        exact fun path hown => (later.of_nil path hown).trans (same path hown)
  exact ⟨nofun, List.nodup_nil, nofun, fun path hown _ => (hsame path hown).trans (hfree path hown)⟩

/-- What was fetched is there. -/
theorem kept_of_fetched (h : Undisturbed own
      (opening directory attachments ++ xs.flatMap (Fetch.record directory)) f f') :
    Kept own directory xs f' ∧ ∀ x ∈ xs, IsPlain x.unique := by
  obtain ⟨howned, hfree, hnames, hplain, hfiles⟩ := h
  rw [List.filterMap_append, names_opening, List.nil_append, Fetch.names_record] at hnames hplain
  rw [List.filterMap_append] at hfiles
  obtain ⟨f₁, hfirst, hsecond⟩ := hfiles.split
  have hplain' : ∀ x ∈ xs, IsPlain x.unique := fun x hx => hplain _ (List.mem_map_of_mem hx)
  have hown : ∀ x ∈ xs, own (x.path directory) := by
    intro x hx
    have hwritten : x.write directory (.ok ()) ∈
        opening directory attachments ++ xs.flatMap (Fetch.record directory) :=
      List.mem_append_right _ (List.mem_flatMap.mpr ⟨x, hx, List.mem_of_getLast? rfl⟩)
    exact howned _ ⟨x.contents, List.mem_filterMap.mpr ⟨_, hwritten, rfl⟩⟩
  have hkept := (kept_of_opening hfree hfirst).fetched hown
    (by exact Fetch.nodup_paths hnames hplain') hsecond
  exact ⟨hkept, hplain'⟩

/-- **A download succeeds.** Every attachment has a file of its own then, with its contents. -/
theorem kept_of_downloaded {directory : String} {files : List String}
    (hplays : (Work.ofOutside (download directory attachments)).Plays os (.ok files))
    (h : Undisturbed own os f f') :
    ∃ xs : List Fetch, xs.map Fetch.attachment = attachments ∧
      files = xs.map (Fetch.path (Path.ofText directory)) ∧
      os = opening (Path.ofText directory) attachments ++
        xs.flatMap (Fetch.record (Path.ofText directory)) ∧
      Kept own (Path.ofText directory) xs f' ∧ ∀ x ∈ xs, IsPlain x.unique := by
  rcases fetches_of_download hplays with ⟨e, -, hr⟩ | ⟨os', rfl, hfetches⟩
  · cases hr
  · cases hfetches with
    | all xs => exact ⟨xs, rfl, rfl, rfl, kept_of_fetched h⟩

/-- **A download fails.** No file is there then, and the failure is that of the request that was
refused. -/
theorem kept_of_failed {directory : String}
    (hplays : (Work.ofOutside (download directory attachments)).Plays os (.error e))
    (h : Undisturbed own os f f') :
    Kept own (Path.ofText directory) [] f' ∧ ∀ e', Refuses os e' → e' = e := by
  rcases fetches_of_download hplays with ⟨e', rfl, hr⟩ | ⟨os', rfl, hfetches⟩
  · cases hr
    refine ⟨?_, ?_⟩
    · cases h.files with
      | denied gone same later =>
        exact ⟨nofun, List.nodup_nil, nofun, fun path hown _ =>
          (later.of_nil path hown).trans ((same path hown).trans (h.free path hown))⟩
    · exact fun e'' hrefuses => hrefuses.failure_eq
  · cases hfetches with
    | @some xs _ broken cleaning e₀ outcome hbreaks hcleaned =>
      have hnames := h.names
      have hplain := h.plain
      rw [← List.append_assoc] at h
      obtain ⟨f₁, hfetched, hrest⟩ := h.split
      obtain ⟨hkept, -⟩ := kept_of_fetched hfetched
      rw [List.filterMap_append] at hrest
      obtain ⟨f₂, hbroken, hcleaning⟩ := hrest.split
      simp only [List.filterMap_append, names_opening, Fetch.names_record, List.nil_append,
        ← List.append_assoc] at hnames hplain
      have hkept₂ := hkept.broken hbreaks (List.nodup_append.mp hnames).1
        (fun unique hmem => hplain unique (List.mem_append_left _ hmem)) hbroken
      obtain ⟨rfl, hnone⟩ := hkept₂.cleaned hcleaned hcleaning
      refine ⟨hnone, fun e' hrefuses => ?_⟩
      rcases refuses_append.mp hrefuses with hopening | hrefuses
      · exact absurd hopening (not_refuses_opening _ _ e')
      · rcases refuses_append.mp hrefuses with hrecord | hrefuses
        · exact absurd hrecord (Fetch.not_refuses_record _ _ e')
        · rcases refuses_append.mp hrefuses with hbreak | hclean
          · exact hbreaks.failure_eq hbreak
          · exact absurd hclean (not_refuses_cleaning hcleaned e')

end Kept

end Attachment

end ChatRelay
