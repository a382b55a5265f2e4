/-!
# Tables in insertion order

A table maps keys to values and remembers the order in which its keys were first set. Setting a
key again changes its value and not its place; an erased key that is set again comes last.
-/

namespace ChatRelay

namespace Entries

variable {κ α : Type} [DecidableEq κ]

/-- The keys of a list of entries, in order. -/
def keys (es : List (κ × α)) : List κ := es.map Prod.fst

/-- The value of the first entry with this key. -/
def get? (key : κ) : List (κ × α) → Option α
  | [] => none
  | e :: rest => if e.1 = key then some e.2 else get? key rest

/-- The entries with one key set: in place where the key is there, and at the end otherwise. -/
def set (key : κ) (value : α) : List (κ × α) → List (κ × α)
  | [] => [(key, value)]
  | e :: rest => if e.1 = key then (key, value) :: rest else e :: set key value rest

/-- Setting a key keeps the place that it has, and a key that is not there goes to the end. -/
theorem keys_set (key : κ) (value : α) (es : List (κ × α)) :
    keys (set key value es) = if key ∈ keys es then keys es else keys es ++ [key] := by
  induction es with
  | nil => simp [keys, set]
  | cons e rest ih =>
    by_cases h : e.1 = key
    · simp [set, h, keys]
    · have h' : ¬ key = e.1 := fun he => h he.symm
      have hset : keys (set key value (e :: rest)) = e.1 :: keys (set key value rest) := by
        simp [set, h, keys]
      have hcons : keys (e :: rest) = e.1 :: keys rest := rfl
      rw [hset, hcons, ih]
      simp only [List.mem_cons, h', false_or]
      split <;> simp

/-- A key that is set stands there once. -/
theorem nodup_keys_set {key : κ} {value : α} {es : List (κ × α)}
    (h : (keys es).Nodup) : (keys (set key value es)).Nodup := by
  rw [keys_set]
  split
  · exact h
  · rename_i hk
    rw [List.nodup_append]
    refine ⟨h, by simp, ?_⟩
    intro a ha b hb hab
    simp only [List.mem_singleton] at hb
    exact hk (hb ▸ hab ▸ ha)

omit [DecidableEq κ] in
/-- Leaving out members makes no key stand there twice. -/
theorem nodup_keys_filter {es : List (κ × α)} (p : κ × α → Bool)
    (h : (keys es).Nodup) : (keys (es.filter p)).Nodup :=
  List.Nodup.sublist (List.Sublist.map _ List.filter_sublist) h

end Entries

/-- A map from keys to values that remembers the order of its keys. -/
structure Table (κ α : Type) where
  /-- The entries, in the order in which their keys were first set. -/
  entries : List (κ × α)
  nodup_keys : (Entries.keys entries).Nodup

namespace Table

variable {κ α : Type} [DecidableEq κ]

/-- The table without entries. -/
def empty : Table κ α := ⟨[], List.nodup_nil⟩

instance : Inhabited (Table κ α) := ⟨empty⟩

/-- The value of a key. -/
def get? (t : Table κ α) (key : κ) : Option α := Entries.get? key t.entries

/-- Whether a key has a value. -/
def contains (t : Table κ α) (key : κ) : Bool := (t.get? key).isSome

/-- The table with a key set to a value. -/
def set (t : Table κ α) (key : κ) (value : α) : Table κ α :=
  ⟨Entries.set key value t.entries, Entries.nodup_keys_set t.nodup_keys⟩

/-- The table without a key. -/
def erase (t : Table κ α) (key : κ) : Table κ α :=
  ⟨t.entries.filter fun e => decide (e.1 ≠ key), Entries.nodup_keys_filter _ t.nodup_keys⟩

/-- The table that results from setting the entries of a list one by one. -/
def ofList (es : List (κ × α)) : Table κ α := es.foldl (fun t e => t.set e.1 e.2) empty

omit [DecidableEq κ] in
/-- Two tables with the same entries in the same order are the same. -/
theorem ext {s t : Table κ α} (h : s.entries = t.entries) : s = t := by
  cases s
  cases t
  cases h
  rfl

end Table

end ChatRelay
