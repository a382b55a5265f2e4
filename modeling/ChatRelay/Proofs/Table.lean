import ChatRelay.Table

/-!
# Looking up in a table

What a table says about a key after another key was set or erased.
-/

namespace ChatRelay

namespace Entries

variable {κ α : Type} [DecidableEq κ]

/-- A key that was set has the value that it was set to. -/
theorem get?_set_self (key : κ) (value : α) (es : List (κ × α)) :
    get? key (set key value es) = some value := by
  induction es with
  | nil => simp only [set, get?, if_true]
  | cons e rest ih =>
    by_cases h : e.1 = key
    · simp only [set, h, if_true, get?]
    · simp only [set, h, if_false, get?]
      exact ih

/-- Setting a key changes no other key. -/
theorem get?_set_of_ne {key other : κ} (h : other ≠ key) (value : α) (es : List (κ × α)) :
    get? other (set key value es) = get? other es := by
  have hne : key ≠ other := fun he => h he.symm
  induction es with
  | nil => simp only [set, get?, hne, if_false]
  | cons e rest ih =>
    by_cases he : e.1 = key
    · simp only [set, he, if_true, get?, hne, if_false]
    · simp only [set, he, if_false, get?]
      rw [ih]

/-- A key that is filtered out has no value any more. -/
theorem get?_filter_self (key : κ) (es : List (κ × α)) :
    get? key (es.filter fun e => decide (e.1 ≠ key)) = none := by
  induction es with
  | nil => rfl
  | cons e rest ih =>
    by_cases h : e.1 = key
    · rw [List.filter_cons_of_neg (by simp [h])]
      exact ih
    · rw [List.filter_cons_of_pos (by simp [h])]
      simp only [get?, h, if_false]
      exact ih

/-- Filtering one key out changes no other key. -/
theorem get?_filter_of_ne {key other : κ} (h : other ≠ key) (es : List (κ × α)) :
    get? other (es.filter fun e => decide (e.1 ≠ key)) = get? other es := by
  induction es with
  | nil => rfl
  | cons e rest ih =>
    by_cases he : e.1 = key
    · have ho : e.1 ≠ other := fun h' => h (h'.symm.trans he)
      rw [List.filter_cons_of_neg (by simp [he])]
      simp only [get?, ho, if_false]
      exact ih
    · rw [List.filter_cons_of_pos (by simp [he])]
      simp only [get?]
      rw [ih]

/-- Every entry is found by its key, when no key stands twice. -/
theorem get?_of_mem {es : List (κ × α)} (h : (keys es).Nodup) {e : κ × α} (he : e ∈ es) :
    get? e.1 es = some e.2 := by
  induction es with
  | nil => cases he
  | cons first rest ih =>
    obtain ⟨hfirst, hrest⟩ := List.nodup_cons.mp h
    rcases List.mem_cons.mp he with rfl | hmem
    · simp only [get?, if_true]
    · have hne : first.1 ≠ e.1 := fun heq => hfirst (heq ▸ List.mem_map_of_mem hmem)
      simp only [get?, hne, if_false]
      exact ih hrest hmem

/-- A key has no value just where no entry has it. -/
theorem get?_eq_none_iff {key : κ} {es : List (κ × α)} : get? key es = none ↔ key ∉ keys es := by
  induction es with
  | nil => exact ⟨fun _ => List.not_mem_nil, fun _ => rfl⟩
  | cons e rest ih =>
    by_cases h : e.1 = key
    · simp only [get?, h, if_true, keys, List.map_cons, List.mem_cons, true_or, not_true_eq_false,
        reduceCtorEq]
    · have hne : key ≠ e.1 := fun heq => h heq.symm
      simp only [get?, h, if_false, keys, List.map_cons, List.mem_cons, hne, false_or]
      exact ih

/-- When a key is set among entries that are all filtered out, only what is set is left. -/
theorem filter_set {p : κ × α → Bool} {key : κ} {value : α} {es : List (κ × α)}
    (hes : ∀ e ∈ es, p e = false) (hset : p (key, value) = true) :
    (set key value es).filter p = [(key, value)] := by
  induction es with
  | nil => rw [set, List.filter_cons_of_pos hset, List.filter_nil]
  | cons e rest ih =>
    obtain ⟨he, hrest⟩ := List.forall_mem_cons.mp hes
    by_cases hkey : e.1 = key
    · have hnil : rest.filter p = [] := List.filter_eq_nil_iff.mpr fun e' he' => by
        rw [hrest e' he']
        exact Bool.false_ne_true
      rw [set, if_pos hkey, List.filter_cons_of_pos hset, hnil]
    · rw [set, if_neg hkey, List.filter_cons_of_neg (by rw [he]; exact Bool.false_ne_true),
        ih hrest]

/-- When a key is set, what is set is the only new entry. -/
theorem mem_of_mem_set {key : κ} {value : α} {es : List (κ × α)} {e : κ × α}
    (h : e ∈ set key value es) : e = (key, value) ∨ e ∈ es := by
  induction es with
  | nil => exact .inl (List.mem_singleton.mp h)
  | cons first rest ih =>
    by_cases hkey : first.1 = key
    · rw [set, if_pos hkey] at h
      exact (List.mem_cons.mp h).imp_right (List.mem_cons_of_mem first)
    · rw [set, if_neg hkey] at h
      rcases List.mem_cons.mp h with rfl | hrest
      · exact .inr List.mem_cons_self
      · exact (ih hrest).imp_right (List.mem_cons_of_mem first)

/-- An entry stays when another key is set. -/
theorem mem_set_of_mem {key : κ} {es : List (κ × α)} {e : κ × α} (h : e ∈ es) (hne : e.1 ≠ key)
    (value : α) : e ∈ set key value es := by
  induction es with
  | nil => cases h
  | cons first rest ih =>
    by_cases hkey : first.1 = key
    · rw [set, if_pos hkey]
      rcases List.mem_cons.mp h with rfl | hrest
      · exact absurd hkey hne
      · exact List.mem_cons_of_mem _ hrest
    · rw [set, if_neg hkey]
      rcases List.mem_cons.mp h with rfl | hrest
      · exact List.mem_cons_self
      · exact List.mem_cons_of_mem _ (ih hrest)

/-- A key that is new comes last. -/
theorem set_of_not_mem {key : κ} {es : List (κ × α)} (h : key ∉ keys es) (value : α) :
    set key value es = es ++ [(key, value)] := by
  induction es with
  | nil => rfl
  | cons e rest ih =>
    have hfirst : e.1 ≠ key := fun heq => h (heq ▸ List.mem_cons_self)
    have hrest : key ∉ keys rest := fun hmem => h (List.mem_cons_of_mem _ hmem)
    rw [set, if_neg hfirst, ih hrest, List.cons_append]

end Entries

namespace Table

variable {κ α : Type} [DecidableEq κ]

/-- Setting the entries of a list puts them behind the others, when no key stands twice. -/
theorem entries_foldl_set {es : List (κ × α)} {t : Table κ α}
    (h : (Entries.keys (t.entries ++ es)).Nodup) :
    (es.foldl (fun t e => t.set e.1 e.2) t).entries = t.entries ++ es := by
  induction es generalizing t with
  | nil => exact (List.append_nil _).symm
  | cons e rest ih =>
    have hnew : e.1 ∉ Entries.keys t.entries := by
      rw [Entries.keys, List.map_append, List.nodup_append] at h
      exact fun hmem => h.2.2 _ hmem _ List.mem_cons_self rfl
    have hset : (t.set e.1 e.2).entries = t.entries ++ [e] := Entries.set_of_not_mem hnew e.2
    rw [List.append_cons, ← hset] at h
    rw [List.foldl_cons, ih h, hset, List.append_assoc, List.singleton_append]

/-- A table has the entries that it is made of, when no key stands twice. -/
theorem entries_ofList {es : List (κ × α)} (h : (Entries.keys es).Nodup) :
    (ofList es).entries = es :=
  entries_foldl_set (t := empty) h

/-- An entry gives the value for its key. -/
theorem get?_of_mem (t : Table κ α) {e : κ × α} (he : e ∈ t.entries) : t.get? e.1 = some e.2 :=
  Entries.get?_of_mem t.nodup_keys he

/-- The empty table has no value for any key. -/
@[simp] theorem get?_empty (key : κ) : (empty : Table κ α).get? key = none := rfl

/-- A key that is set has the value that it is set to. -/
@[simp] theorem get?_set_self (t : Table κ α) (key : κ) (value : α) :
    (t.set key value).get? key = some value :=
  Entries.get?_set_self key value t.entries

/-- Setting a key leaves the values for the other keys as they are. -/
theorem get?_set_of_ne (t : Table κ α) {key other : κ} (h : other ≠ key) (value : α) :
    (t.set key value).get? other = t.get? other :=
  Entries.get?_set_of_ne h value t.entries

/-- A key that is erased has no value. -/
@[simp] theorem get?_erase_self (t : Table κ α) (key : κ) : (t.erase key).get? key = none :=
  Entries.get?_filter_self key t.entries

/-- Erasing a key that has no value changes nothing. -/
theorem erase_of_not_contains {t : Table κ α} {key : κ} (h : t.contains key = false) :
    t.erase key = t := by
  have hnone : t.get? key = none := by
    rw [contains] at h
    exact Option.not_isSome_iff_eq_none.mp (Bool.eq_false_iff.mp h)
  refine ext (List.filter_eq_self.mpr fun e he => decide_eq_true fun hkey => ?_)
  exact Entries.get?_eq_none_iff.mp hnone (hkey ▸ List.mem_map_of_mem he)

/-- Erasing a key leaves the values for the other keys as they are. -/
theorem get?_erase_of_ne (t : Table κ α) {key other : κ} (h : other ≠ key) :
    (t.erase key).get? other = t.get? other :=
  Entries.get?_filter_of_ne h t.entries

end Table

end ChatRelay
