import ChatRelay.Disk.Service
import ChatRelay.Proofs.Calls

/-!
# What becomes of files

The disk keeps a file at some paths. `Disk.granted` says what a request that is granted does to the
files, `Disk.Tells` what its reply says about them, and `Disk.Partly` what a request may have done
that is refused or broken off: a write may have left any part of what was to be written, and all
else happens as a whole or not at all.

`Disk.Along` follows the files along a record. What a refused request does is a parameter, so that
a statement can say what it takes for granted. `Disk.Shared` does so where others use the disk too:
they leave some files alone, and may do anything to all others.
-/

namespace ChatRelay.Disk

open Dialogue (Event)

/-- The contents of the file at every path that has one. -/
abbrev Files : Type := String → Option Bytes

namespace Files

/-- The files with another one, or none, at a path. -/
def set (f : Files) (path : String) (contents : Option Bytes) : Files :=
  fun p => if p = path then contents else f p

/-- A file that is put at a path is there. -/
@[simp] theorem set_self (f : Files) (path : String) (contents : Option Bytes) :
    f.set path contents path = contents := if_pos rfl

/-- A file that is put at a path leaves those at other paths as they are. -/
@[simp] theorem set_of_ne (f : Files) {path other : String} (h : other ≠ path)
    (contents : Option Bytes) : f.set path contents other = f other := if_neg h

end Files

/-- The files when a request was granted. -/
def granted (f : Files) : Request → Files
  | .write path contents => f.set path (some contents)
  | .rename source target => (f.set source none).set target (f source)
  | .remove path => f.set path none
  | .isThere _ | .read _ | .makeDirectory _ => f

/-- What the answer to a request says about the files. -/
def Tells (f : Files) : (q : Request) → Value q → Prop
  | .isThere path, (there : Bool) => there = (f path).isSome
  | .read path, (contents : Bytes) => f path = some contents
  | .makeDirectory _, _ | .write _ _, _ | .rename _ _, _ | .remove _, _ => True

/-- What a request may have done when it is refused or broken off. -/
inductive Partly (f : Files) : Request → Files → Prop where
  | nothing (q : Request) : Partly f q f
  | all (q : Request) : Partly f q (granted f q)
  /-- The file is there, with the first bytes of what was to be written. -/
  | part (path : String) (contents : Bytes) (n : Nat) :
    Partly f (.write path contents) (f.set path (some (contents.take n)))

/-- A directory is no file. -/
theorem Partly.makeDirectory {f f' : Files} {path : String}
    (h : Partly f (.makeDirectory path) f') : f' = f := by
  cases h with
  | nothing => rfl
  | all => rfl

/-- A write leaves all other files as they are. -/
theorem Partly.write_of_ne {f f' : Files} {path other : String} {contents : Bytes}
    (h : Partly f (.write path contents) f') (hne : other ≠ path) : f' other = f other := by
  cases h with
  | nothing => rfl
  | all => exact f.set_of_ne hne _
  | part => exact f.set_of_ne hne _

/-- A file that is replaced by another one is the old file or the other one. -/
theorem Partly.rename_target {f f' : Files} {source target : String}
    (h : Partly f (.rename source target) f') : f' target = f target ∨ f' target = f source := by
  cases h with
  | nothing => exact .inl rfl
  | all => exact .inr (Files.set_self _ _ _)

/-- What becomes of files along a record that nobody else touches, when a refused request does what
it may do. -/
inductive Along (refused : Files → Request → Files → Prop) :
    Files → List (Event service) → Files → Prop where
  | nil (f : Files) : Along refused f [] f
  | said {f f' : Files} {line : String} {os : List (Event service)}
      (later : Along refused f os f') : Along refused f (.said line :: os) f'
  | granted {f f' : Files} {q : Request} {value : Value q} {os : List (Event service)}
      (tells : Tells f q value) (later : Along refused (granted f q) os f') :
      Along refused f (.asked q (.ok value) :: os) f'
  | refused {f f₁ f' : Files} {q : Request} {e : Failure} {os : List (Event service)}
      (left : refused f q f₁) (later : Along refused f₁ os f') :
      Along refused f (.asked q (.error e) :: os) f'

variable {refused : Files → Request → Files → Prop} {f f' : Files} {os os' : List (Event service)}

/-- Along a record the files are those along its first part, and then those along the second. -/
theorem along_append :
    Along refused f (os ++ os') f' ↔
      ∃ f₁, Along refused f os f₁ ∧ Along refused f₁ os' f' := by
  constructor
  · intro h
    induction os generalizing f with
    | nil => exact ⟨f, .nil f, h⟩
    | cons o rest ih =>
      cases h with
      | said later =>
        obtain ⟨f₁, hfirst, hsecond⟩ := ih later
        exact ⟨f₁, .said hfirst, hsecond⟩
      | granted tells later =>
        obtain ⟨f₁, hfirst, hsecond⟩ := ih later
        exact ⟨f₁, .granted tells hfirst, hsecond⟩
      | refused left later =>
        obtain ⟨f₁, hfirst, hsecond⟩ := ih later
        exact ⟨f₁, .refused left hfirst, hsecond⟩
  · rintro ⟨f₁, hfirst, hsecond⟩
    induction hfirst with
    | nil => exact hsecond
    | said _ ih => exact .said (ih hsecond)
    | granted tells _ ih => exact .granted tells (ih hsecond)
    | refused left _ ih => exact .refused left (ih hsecond)

/-! ## A disk that others use -/

/-- The files when a request was refused: a write that is refused leaves no file. -/
def denied (f : Files) : Request → Files
  | .write path _ => f.set path none
  | _ => f

/-- What becomes of files along a record, when nobody else touches those at the paths of its own
and anything may happen to all others. No file that is there is refused to be removed. -/
inductive Shared (own : String → Prop) : Files → List (Event service) → Files → Prop where
  | nil {f f' : Files} (same : ∀ p, own p → f' p = f p) : Shared own f [] f'
  | said {f f' : Files} {line : String} {os : List (Event service)}
      (later : Shared own f os f') : Shared own f (.said line :: os) f'
  | granted {f f₁ f' : Files} {q : Request} {value : Value q} {os : List (Event service)}
      (same : ∀ p, own p → f₁ p = granted f q p) (later : Shared own f₁ os f') :
      Shared own f (.asked q (.ok value) :: os) f'
  | denied {f f₁ f' : Files} {q : Request} {e : Failure} {os : List (Event service)}
      (gone : ∀ path, q = .remove path → f path = none)
      (same : ∀ p, own p → f₁ p = denied f q p) (later : Shared own f₁ os f') :
      Shared own f (.asked q (.error e) :: os) f'

variable {own : String → Prop}

/-- The files along two records in a row. -/
theorem Shared.split (h : Shared own f (os ++ os') f') :
    ∃ f₁, Shared own f os f₁ ∧ Shared own f₁ os' f' := by
  induction os generalizing f with
  | nil => exact ⟨f, .nil fun _ _ => rfl, h⟩
  | cons o rest ih =>
    cases h with
    | said later =>
      obtain ⟨f₁, hfirst, hsecond⟩ := ih later
      exact ⟨f₁, .said hfirst, hsecond⟩
    | granted same later =>
      obtain ⟨f₁, hfirst, hsecond⟩ := ih later
      exact ⟨f₁, .granted same hfirst, hsecond⟩
    | denied gone same later =>
      obtain ⟨f₁, hfirst, hsecond⟩ := ih later
      exact ⟨f₁, .denied gone same hfirst, hsecond⟩

/-- Where the disk is asked nothing, no own file changes. -/
theorem Shared.of_nil (h : Shared own f [] f') : ∀ p, own p → f' p = f p := by
  cases h with
  | nil same => exact same

end ChatRelay.Disk
