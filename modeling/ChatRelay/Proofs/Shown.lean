import ChatRelay.Document

/-!
# What is shown of a document

Everything that a document holds is shown when the document is, apart from whole numbers of too
many digits: `Document.holdsLong_of_shown?` says that nothing else is in the way. A document that
counts as given is never shown as an empty text (`Document.shown?_ne_empty`).
-/

namespace ChatRelay

namespace Text.Wide

/-- Joining surrogates leaves no text empty. -/
theorem joined_ne_nil {w : Wide} (h : w ≠ []) : w.joined ≠ [] := by
  match w with
  | [] => exact absurd rfl h
  | [p] => exact List.cons_ne_nil p []
  | p :: q :: rest =>
    rw [joined]
    cases pair? p q with
    | none => exact List.cons_ne_nil _ _
    | some c => exact List.cons_ne_nil _ _

/-- A wide text that is not empty has a text that is not. -/
theorem text_ne_empty {w : Wide} (h : w ≠ []) : w.text ≠ "" := by
  rw [text, ne_eq, String.ofList_eq_empty_iff, List.map_eq_nil_iff]
  exact joined_ne_nil h

end Text.Wide

namespace Document

/-! ## What a document holds -/

/-- The values that stand in a collection. -/
def Cell.values : Cell → List Value
  | list items | set items => items
  | mapping members => members.flatMap fun m => [m.1, m.2]
  | pair first second => [first, second]

/-- A document holds its value, and the values in the collections that it holds. -/
inductive Holds (d : Document) : Value → Prop where
  | root : Holds d d.root
  | inside {n : Nat} {cell : Cell} {v : Value} (outer : Holds d (.collection n))
      (found : d.cells[n]? = some cell) (mem : v ∈ cell.values) : Holds d v

/-- A document holds a whole number of too many digits. -/
def HoldsLong (d : Document) : Prop :=
  ∃ n : Int, d.Holds (.integer n) ∧ Nat.pow 10 Text.Numeral.limit ≤ n.natAbs

/-- What is held by a value that a document holds is held by the document. -/
theorem Holds.trans {d : Document} {v w : Value} (h : d.Holds v)
    (hw : ({ d with root := v } : Document).Holds w) : d.Holds w := by
  induction hw with
  | root => exact h
  | inside _ found mem ih => exact .inside ih found mem

/-- The values of a collection are held by it. -/
theorem holds_of_cell? {d : Document} {cell : Cell} {v : Value} (h : d.cell? = some cell)
    (hv : v ∈ cell.values) : d.Holds v := by
  unfold cell? at h
  split at h
  · rename_i n hroot
    exact .inside (hroot ▸ .root) h hv
  · cases h

/-- A document has members just where it is the mapping with these. -/
theorem members?_eq_some_iff {d : Document} {members : List (Value × Value)} :
    d.members? = some members ↔ d.cell? = some (.mapping members) := by
  unfold members?
  split
  · rename_i ms hcell
    simp only [hcell, Option.some.injEq, Cell.mapping.injEq]
  · rename_i hcell
    exact ⟨nofun, fun h => absurd h (hcell members)⟩

/-- Whether a value is a whole number of too many digits. -/
def Value.isLong : Value → Bool
  | integer n => decide (Nat.pow 10 Text.Numeral.limit ≤ n.natAbs)
  | _ => false

/-- A document with no such number in its cells holds none. -/
theorem not_holdsLong {d : Document} (hroot : d.root.isLong = false)
    (hcells : ∀ cell ∈ d.cells.toList, ∀ v ∈ cell.values, v.isLong = false) : ¬d.HoldsLong := by
  have hshort : ∀ v, d.Holds v → v.isLong = false := by
    intro v hv
    induction hv with
    | root => exact hroot
    | inside _ found mem _ =>
      exact hcells _ (Array.mem_toList_iff.mpr (Array.mem_of_getElem? found)) _ mem
  rintro ⟨n, hn, hlong⟩
  have hnot := hshort _ hn
  rw [Value.isLong, decide_eq_false_iff_not] at hnot
  exact hnot hlong

/-- A document is in another one: it has the same cells, and its value is held. -/
structure Inside (m d : Document) : Prop where
  cells : m.cells = d.cells
  held : d.Holds m.root

/-- What is in a document that is in another one is in that one, too. -/
theorem Inside.trans {d m m' : Document} (h : m'.Inside m) (hm : m.Inside d) : m'.Inside d := by
  have hsame : ({ d with root := m.root } : Document) = m := by rw [← hm.cells]
  exact ⟨h.cells.trans hm.cells, hm.held.trans (hsame ▸ h.held)⟩

/-- The value of a member is in the mapping. -/
theorem inside_of_member? {d m : Document} {key : String} (h : d.member? key = some m) :
    m.Inside d := by
  obtain ⟨members, hmembers, hfind⟩ := Option.bind_eq_some_iff.mp h
  obtain ⟨member, hmember, rfl⟩ := Option.map_eq_some_iff.mp hfind
  have hmem : member ∈ members := List.mem_reverse.mp (List.mem_of_find?_eq_some hmember)
  have hvalue : member.2 ∈ (Cell.mapping members).values :=
    List.mem_flatMap.mpr ⟨member, hmem, List.mem_cons_of_mem _ List.mem_cons_self⟩
  exact ⟨rfl, holds_of_cell? (members?_eq_some_iff.mp hmembers) hvalue⟩

/-- The items of a list are in the list. -/
theorem inside_of_items? {d item : Document} {items : List Document} (h : d.items? = some items)
    (hmem : item ∈ items) : item.Inside d := by
  unfold items? at h
  split at h
  · rename_i vs hcell
    cases h
    obtain ⟨v, hv, rfl⟩ := List.mem_map.mp hmem
    exact ⟨rfl, holds_of_cell? hcell hv⟩
  · cases h

/-- Whatever is inside a document holds no whole number of too many digits that it does not. -/
theorem HoldsLong.of_inside {d m : Document} (h : m.HoldsLong) (hm : m.Inside d) :
    d.HoldsLong := by
  obtain ⟨n, hn, hlong⟩ := h
  have hsame : ({ d with root := m.root } : Document) = m := by rw [← hm.cells]
  exact ⟨n, hm.held.trans (hsame ▸ hn), hlong⟩

/-- A mapping with a member counts as given. -/
theorem isGiven_of_member? {d m : Document} {key : String} (h : d.member? key = some m) :
    d.isGiven = true := by
  obtain ⟨members, hmembers, hfind⟩ := Option.bind_eq_some_iff.mp h
  obtain ⟨member, hmember, -⟩ := Option.map_eq_some_iff.mp hfind
  have hmem : member ∈ members := List.mem_reverse.mp (List.mem_of_find?_eq_some hmember)
  have hcell := members?_eq_some_iff.mp hmembers
  unfold cell? at hcell
  split at hcell
  · rename_i n hroot
    have hfound : d.cells[n]?.getD default = .mapping members := by rw [hcell, Option.getD_some]
    rw [isGiven, hroot]
    dsimp only
    rw [hfound, Cell.isGiven]
    cases members with
    | nil => cases hmem
    | cons first rest => rfl
  · cases hcell

/-- Only a mapping has members. -/
theorem isSome_members?_of_member? {d m : Document} {key : String} (h : d.member? key = some m) :
    d.members?.isSome := by
  obtain ⟨members, hmembers, -⟩ := Option.bind_eq_some_iff.mp h
  rw [hmembers]
  rfl

/-! ## What is shown at all -/

/-- Of a list something cannot be made only if it cannot be made of one of the items. -/
theorem exists_of_mapM {α β : Type} {f : α → Option β} {l : List α} (h : l.mapM f = none) :
    ∃ a ∈ l, f a = none := by
  induction l with
  | nil => cases h
  | cons a rest ih =>
    rw [List.mapM_cons] at h
    rcases hfirst : f a with _ | b
    · exact ⟨a, List.mem_cons_self, hfirst⟩
    · rcases hrest : rest.mapM f with _ | bs
      · obtain ⟨a', hmem, ha'⟩ := ih hrest
        exact ⟨a', List.mem_cons_of_mem a hmem, ha'⟩
      · rw [hfirst, hrest] at h
        cases h

/-- A collection of which something cannot be made has a value of which it cannot be made. -/
theorem exists_of_enclose {f : Value → Option String} {cell : Cell}
    (h : (match cell with
      | .set [] => some "set()"
      | .list items | .set items => (items.mapM f).map cell.enclose
      | .pair first second => ([first, second].mapM f).map cell.enclose
      | .mapping members =>
        (members.mapM fun (m : Value × Value) => do
          return (← f m.1) ++ ": " ++ (← f m.2)).map cell.enclose) = none) :
    ∃ v ∈ cell.values, f v = none := by
  cases cell with
  | list items => exact exists_of_mapM (Option.map_eq_none_iff.mp h)
  | set items =>
    cases items with
    | nil => cases h
    | cons v rest => exact exists_of_mapM (Option.map_eq_none_iff.mp h)
  | pair first second => exact exists_of_mapM (Option.map_eq_none_iff.mp h)
  | mapping members =>
    obtain ⟨m, hm, hnone⟩ := exists_of_mapM (Option.map_eq_none_iff.mp h)
    have hvalues : ∀ v ∈ [m.1, m.2], v ∈ (Cell.mapping members).values :=
      fun v hv => List.mem_flatMap.mpr ⟨m, hm, hv⟩
    cases hkey : f m.1 with
    | none => exact ⟨m.1, hvalues _ List.mem_cons_self, hkey⟩
    | some key =>
      cases hvalue : f m.2 with
      | none => exact ⟨m.2, hvalues _ (List.mem_cons_of_mem _ List.mem_cons_self), hvalue⟩
      | some value =>
        rw [hkey, hvalue] at hnone
        cases hnone

/-- A value that is not shown is a whole number of too many digits, or a collection with a value
that is not shown. -/
theorem cases_of_describe? {cells : Array Cell} {levels : Nat} {around : List Nat} {v : Value}
    (h : describe? cells levels around v = none) :
    (∃ n, v = .integer n ∧ Nat.pow 10 Text.Numeral.limit ≤ n.natAbs) ∨
      ∃ n levels' cell w, v = .collection n ∧ levels = levels' + 1 ∧ cells[n]? = some cell ∧
        w ∈ cell.values ∧ describe? cells levels' (n :: around) w = none := by
  rw [describe?.eq_def] at h
  split at h
  · rename_i n
    split at h
    · cases h
    · split at h
      · cases h
      · rename_i levels
        obtain ⟨w, hw, hnone⟩ := exists_of_enclose h
        refine .inr ⟨n, levels, cells[n]?.getD default, w, rfl, rfl, ?_, hw, hnone⟩
        cases hcell : cells[n]? with
        | some cell => rfl
        | none =>
          rw [hcell] at hw
          cases hw
  · rename_i hscalar
    cases v with
    | integer n =>
      rw [Value.describeScalar?] at h
      split at h
      · rename_i hlong
        exact .inl ⟨n, rfl, hlong⟩
      · cases h
    | collection n => exact (hscalar n rfl).elim
    | _ => cases h

/-- A value that a document holds is shown, unless it holds a whole number of too many digits. -/
theorem holdsLong_of_describe? {d : Document} {levels : Nat} {around : List Nat} {v : Value}
    (h : describe? d.cells levels around v = none) (hv : d.Holds v) : d.HoldsLong := by
  -- A collection may hold itself, so it is the levels that get fewer.
  rcases cases_of_describe? h with ⟨n, rfl, hlong⟩ |
    ⟨n, levels, cell, w, rfl, rfl, hcell, hw, hnone⟩
  · exact ⟨n, hv, hlong⟩
  · exact holdsLong_of_describe? hnone (.inside hv hcell hw)
termination_by levels

/-- A document is shown, unless it holds a whole number of too many digits. -/
theorem holdsLong_of_shown? {d : Document} (h : d.shown? = none) : d.HoldsLong := by
  unfold shown? at h
  split at h
  · cases h
  · cases h
  · cases h
  · exact holdsLong_of_describe? h .root

/-! ## Nothing is shown as an empty text -/

/-- A text that ends in one that is not empty is not empty. -/
theorem append_ne_empty (s : String) {t : String} (h : t ≠ "") : s ++ t ≠ "" :=
  fun happend => h (String.append_eq_empty_iff.mp happend).2

/-- No number is shown as an empty text. -/
theorem showReal_ne_empty (x : Decimal.Binary) : showReal x ≠ "" := by
  have hpositional : ∀ d, writePositional d ≠ "" := by
    intro d
    unfold writePositional
    split <;> simp [String.append_eq_empty_iff]
  have hscientific : ∀ d, writeScientific d ≠ "" := by
    intro d
    simp [writeScientific, String.append_eq_empty_iff]
  unfold showReal
  split
  · decide
  · generalize (if x.negative then "-" else "") = sign
    dsimp only
    split
    · exact append_ne_empty sign (by decide)
    · split
      · exact append_ne_empty sign (hpositional _)
      · exact append_ne_empty sign (hscientific _)

/-- No scalar is shown as an empty text. -/
theorem Value.describeScalar?_ne_empty {v : Value} {s : String} (h : v.describeScalar? = some s) :
    s ≠ "" := by
  cases v with
  | null => cases h; decide
  | bool b => cases h; cases b <;> decide
  | integer n =>
    rw [describeScalar?] at h
    split at h
    · cases h
    · cases h
      cases n with
      | ofNat n => exact Nat.repr_ne_empty
      | negSucc n => simp [toString, Int.repr, String.append_eq_empty_iff]
  | real x =>
    obtain rfl := Option.some.inj h
    exact showReal_ne_empty x
  | undefined serial => cases h; decide
  | text t =>
    obtain rfl := Option.some.inj h
    simp [Text.Wide.quoted]
  | date year month day =>
    obtain rfl := Option.some.inj h
    exact append_ne_empty _ (by decide)
  | time t =>
    obtain rfl := Option.some.inj h
    exact append_ne_empty _ (by decide)
  | bytes contents =>
    obtain rfl := Option.some.inj h
    simp [showBytes]
  | collection n => cases h

/-- What stands in brackets is no empty text. -/
theorem Cell.brackets_append_ne_empty (c : Cell) (s : String) : c.brackets.1 ++ s ≠ "" := by
  cases c <;> simp [brackets, String.append_eq_empty_iff]

/-- No value is shown as an empty text. -/
theorem describe?_ne_empty {cells : Array Cell} {levels : Nat} {around : List Nat} {v : Value}
    {s : String} (h : describe? cells levels around v = some s) : s ≠ "" := by
  have hleftOut : ∀ c : Cell, c.leftOut ≠ "" := by
    intro c
    rw [Cell.leftOut, String.append_assoc]
    exact c.brackets_append_ne_empty _
  have henclose : ∀ (c : Cell) (parts : Option (List String)), parts.map c.enclose = some s →
      s ≠ "" := by
    intro c parts hparts
    obtain ⟨parts, -, rfl⟩ := Option.map_eq_some_iff.mp hparts
    rw [Cell.enclose, String.append_assoc]
    exact c.brackets_append_ne_empty _
  rw [describe?.eq_def] at h
  split at h
  · split at h
    · cases h
      exact hleftOut _
    · split at h
      · cases h
        exact hleftOut _
      · dsimp only at h
        split at h
        · cases h
          decide
        · exact henclose _ _ h
        · exact henclose _ _ h
        · exact henclose _ _ h
        · exact henclose _ _ h
  · exact Value.describeScalar?_ne_empty h

/-- A document that counts as given is not shown as an empty text. -/
theorem shown?_ne_empty {d : Document} {s : String} (hgiven : d.isGiven = true)
    (h : d.shown? = some s) : s ≠ "" := by
  unfold shown? at h
  split at h
  · rename_i t hroot
    obtain rfl := Option.some.inj h
    rw [isGiven, hroot] at hgiven
    refine Text.Wide.text_ne_empty fun hnil => ?_
    rw [hnil] at hgiven
    cases hgiven
  · obtain rfl := Option.some.inj h
    simp [String.append_eq_empty_iff]
  · obtain rfl := Option.some.inj h
    simp [showTime, Timestamp.written, String.append_eq_empty_iff]
  · exact describe?_ne_empty h

end Document

end ChatRelay
