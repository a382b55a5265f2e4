import ChatRelay.Text.Utf8

/-!
# Text files that are written and read

The bytes of a text are decoded to the text (`Text.decode?_encode`), and a text file that was
written is read as it was, provided that its text has no carriage return (`Text.readFile?_encode`).
Only a wide text of characters can be written (`Text.Wide.encodeWide?_eq_some_iff`).
-/

namespace ChatRelay.Text

/-! ## Bytes -/

/-- The loop adds the bytes from its position on to those that it has. -/
theorem toList_loop_eq (bytes : ByteArray) (i : Nat) (r : List UInt8) :
    ByteArray.toList.loop bytes i r = r.reverse ++ bytes.data.toList.drop i := by
  fun_induction ByteArray.toList.loop bytes i r with
  | case1 i r h ih =>
    have hi : i < bytes.data.toList.length := h
    have hget : bytes.get! i = bytes.data.toList[i] := by
      rw [ByteArray.get!, getElem!_pos bytes.data i h, Array.getElem_toList]
    rw [ih, List.drop_eq_getElem_cons hi, hget, List.reverse_cons, List.append_assoc]
    rfl
  | case2 i r h =>
    have hi : bytes.data.toList.length ≤ i := Nat.le_of_not_lt h
    rw [List.drop_eq_nil_of_le hi, List.append_nil]

/-- The bytes of an array make it up again. -/
theorem toArray_toList (bytes : ByteArray) : (⟨bytes.toList.toArray⟩ : ByteArray) = bytes := by
  rw [ByteArray.toList, toList_loop_eq, List.reverse_nil, List.nil_append, List.drop_zero,
    Array.toArray_toList]

/-- The bytes of a text stand for the text. -/
theorem decode?_encode (s : String) : decode? (encode s) = some s := by
  rw [decode?, encode, toArray_toList, String.fromUTF8?]
  exact dif_pos s.isValidUTF8

/-! ## Lines -/

/-- A text without carriage returns is read as it is. -/
theorem normalizeNewlines_of_not_mem {cs : List Char} (h : '\r' ∉ cs) :
    normalizeNewlines cs = cs := by
  induction cs with
  | nil => rfl
  | cons c rest ih =>
    have hc : c ≠ '\r' := fun heq => h (heq ▸ List.mem_cons_self)
    have hrest : '\r' ∉ rest := fun hmem => h (List.mem_cons_of_mem _ hmem)
    rw [normalizeNewlines]
    · rw [if_neg hc, ih hrest]
    · exact fun _ heq _ => hc heq

/-- A text file is read as it was written. -/
theorem readFile?_encode {s : String} (h : '\r' ∉ s.toList) : readFile? (encode s) = some s := by
  rw [readFile?, decode?_encode, Option.map_some, normalizeNewlines_of_not_mem h,
    String.ofList_toList]

/-! ## Wide texts -/

namespace Wide

/-- A character before a wide text is one of its characters. -/
theorem chars?_cons (c : Char) (w : Wide) :
    chars? (.char c :: w) = (chars? w).map (c :: ·) := by
  rw [chars?, List.mapM_cons, ← chars?]
  cases chars? w <;> rfl

/-- A wide text has characters if and only if it consists of them. -/
theorem chars?_eq_some_iff {w : Wide} {cs : List Char} :
    chars? w = some cs ↔ w = ofChars cs := by
  induction w generalizing cs with
  | nil => cases cs <;> simp [chars?, ofChars]
  | cons p rest ih =>
    cases p with
    | lone code =>
      have hne : Point.lone code :: rest ≠ ofChars cs := by
        cases cs <;> simp [ofChars]
      have hnone : chars? (.lone code :: rest) = none := by
        rw [chars?, List.mapM_cons]
        rfl
      rw [hnone]
      constructor
      · intro h
        cases h
      · exact fun h => absurd h hne
    | char c =>
      rw [chars?_cons, Option.map_eq_some_iff]
      constructor
      · rintro ⟨cs, hcs, rfl⟩
        exact congrArg (Point.char c :: ·) (ih.mp hcs)
      · intro h
        cases cs with
        | nil => cases h
        | cons d cs =>
          obtain ⟨hc, hrest⟩ := List.cons.inj h
          cases hc
          exact ⟨cs, ih.mpr hrest, rfl⟩

/-- Only a wide text of characters can be written, and its bytes are those of its characters. -/
theorem encodeWide?_eq_some_iff {w : Wide} {bytes : List UInt8} :
    encodeWide? w = some bytes ↔
      ∃ cs, w = ofChars cs ∧ encode (String.ofList cs) = bytes := by
  simp only [encodeWide?, text?, Option.map_map, Option.map_eq_some_iff, chars?_eq_some_iff,
    Function.comp]

/-- A wide text without lone surrogates consists of characters. -/
theorem eq_ofChars_of_no_lone {w : Wide} (h : ∀ code, .lone code ∉ w) : ∃ cs, w = ofChars cs := by
  induction w with
  | nil => exact ⟨[], rfl⟩
  | cons p rest ih =>
    obtain ⟨cs, rfl⟩ := ih fun code hmem => h code (List.mem_cons_of_mem _ hmem)
    cases p with
    | char c => exact ⟨c :: cs, rfl⟩
    | lone code => exact absurd List.mem_cons_self (h code)

/-- A text that is made of characters has no lone surrogate. -/
theorem not_lone_mem_ofChars {cs : List Char} {code : Nat} : .lone code ∉ ofChars cs := by
  intro h
  obtain ⟨c, -, hc⟩ := List.mem_map.mp h
  cases hc

end Wide

end ChatRelay.Text
