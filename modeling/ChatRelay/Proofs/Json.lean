import ChatRelay.Json.Reader
import ChatRelay.Json.Writer
import ChatRelay.Proofs.Encoding

/-!
# Written tables are read back

The writer puts a table on lines, and the reader drops the spaces between its parts again. A
character is written as an escape where it has one, and the escape is read as the character
(`Json.readPoints_escapeChar`), so a text is read up to its closing quote as it was written, and
what stands behind the quote is left (`Json.readText_quoted`). Members are read one by one.

The main statement is `Json.read_table`: for every table of texts without lone surrogates,
whatever characters they have, the reader returns the members that were written, in their order.
-/

namespace ChatRelay.Json

open Text (Wide Point)
open Text.Wide (ofChars)

/-! ## Texts -/

/-- Two texts one after the other are the wide texts one after the other. -/
theorem ofChars_append (cs ds : List Char) : ofChars (cs ++ ds) = ofChars cs ++ ofChars ds :=
  List.map_append

/-- The code of a control character is written in four digits that stand for it. -/
theorem hexNumber?_hexDigits {n : Nat} (h : n < 0x20) :
    hexNumber? (Text.hexDigits 4 n) = some n := by
  decide +revert

/-- The code of a character stands for that character. -/
theorem ofCode_toNat (c : Char) : Point.ofCode c.toNat = .char c := by
  have hvalid : c.toNat.isValidChar := c.valid
  rw [Point.ofCode, if_pos hvalid]
  exact congrArg Point.char (Char.ofNat_toNat c)

/-- A short escape is read as its character. -/
theorem readPoints_short {e d : Char} (hu : e ≠ 'u') (he : shortEscape? e = some d)
    (rest : List Char) :
    readPoints ('\\' :: e :: rest) = (readPoints rest).map fun r => (.char d :: r.1, r.2) := by
  rw [readPoints, he, Option.bind_some]
  exact fun _ _ _ _ _ h => absurd h hu

/-- The escape of a control character is read as the character. -/
theorem readPoints_control {c : Char} (h : c.toNat < 0x20) (rest : List Char) :
    readPoints (['\\', 'u'] ++ Text.hexDigits 4 c.toNat ++ rest) =
      (readPoints rest).map fun r => (.char c :: r.1, r.2) := by
  obtain ⟨a₁, a₂, a₃, a₄, hdigits⟩ :
      ∃ a₁ a₂ a₃ a₄, Text.hexDigits 4 c.toNat = [a₁, a₂, a₃, a₄] := ⟨_, _, _, _, rfl⟩
  have hnumber := hexNumber?_hexDigits h
  rw [hdigits] at hnumber ⊢
  have hread : readPoints (['\\', 'u'] ++ [a₁, a₂, a₃, a₄] ++ rest) =
      (hexNumber? [a₁, a₂, a₃, a₄]).bind fun n =>
        (readPoints rest).map fun r => (Point.ofCode n :: r.1, r.2) := readPoints.eq_3 ..
  rw [hread, hnumber, Option.bind_some, ofCode_toNat]

/-- The escape of a character is read as the character. -/
theorem readPoints_escapeChar (c : Char) (rest : List Char) :
    readPoints (escapeChar c ++ rest) =
      (readPoints rest).map fun r => (.char c :: r.1, r.2) := by
  unfold escapeChar
  -- The characters with a short escape come first, then the control characters.
  iterate 7
    split
    · subst_vars
      exact readPoints_short (by decide) rfl rest
  split
  · rename_i hcontrol
    exact readPoints_control hcontrol rest
  · rename_i hquote hslash _ _ _ _ _ hcontrol
    rw [List.singleton_append, readPoints]
    · simp only [hcontrol, hslash, decide_false, Bool.or_self, Bool.false_eq_true, if_false]
    · exact hquote
    · exact fun _ _ _ _ _ h => absurd h hslash
    · exact fun _ _ h => absurd h hslash

/-- A text between quotes, without the quote that opens it. -/
def closed (cs : List Char) : List Char := cs.flatMap escapeChar ++ ['"']

/-- A text is read up to the quote that closes it, as it was written. -/
theorem readText_closed (cs rest : List Char) :
    readText (closed cs ++ rest) = some (ofChars cs, rest) := by
  have hpoints : readPoints (closed cs ++ rest) = some (ofChars cs, rest) := by
    induction cs with
    | nil => exact readPoints.eq_2 rest
    | cons c cs ih =>
      have hsplit : closed (c :: cs) ++ rest = escapeChar c ++ (closed cs ++ rest) := by
        simp only [closed, List.flatMap_cons, List.append_assoc]
      rw [hsplit, readPoints_escapeChar, ih]
      rfl
  rw [readText, hpoints, Option.map_some, Text.Wide.joined_ofChars]

/-- A text of characters is written as its escaped characters between quotes. -/
theorem writeText_ofChars (cs : List Char) :
    writeText (ofChars cs) = ofChars ('"' :: closed cs) := by
  have hpoints : (ofChars cs).flatMap escapePoint = ofChars (cs.flatMap escapeChar) := by
    rw [ofChars, List.flatMap_map, ofChars, List.map_flatMap]
    rfl
  rw [writeText, hpoints, closed, ofChars, ofChars, List.map_cons, List.map_append]
  rfl

/-! ## Members -/

/-- A member of a table whose texts have no lone surrogates: its two texts. -/
abbrev Member := List Char × List Char

/-- A member as it is written, without the spaces before it and without its first quote. -/
def memberRest (m : Member) : List Char := closed m.1 ++ ':' :: ' ' :: '"' :: closed m.2

/-- What is written behind a member, when other members come. -/
def behind : List Member → List Char
  | [] => ['\n', '\x7d']
  | m :: rest => [',', '\n', ' ', ' ', '"'] ++ memberRest m ++ behind rest

/-- A member as it is read. -/
def Member.read (m : Member) : Wide × Json := (ofChars m.1, .text (ofChars m.2))

/-- A member as it is in a table. -/
def Member.entry (m : Member) : Wide × Wide := (ofChars m.1, ofChars m.2)

/-- A text is a value. -/
theorem readValue_closed (steps levels : Nat) (cs rest : List Char) :
    readValue (steps + 1) levels ('"' :: (closed cs ++ rest)) =
      .ok (.text (ofChars cs), rest) := by
  have hvalue : readValue (steps + 1) levels ('"' :: (closed cs ++ rest)) =
      (orMalformed (readText (closed cs ++ rest))).map fun r => (.text r.1, r.2) :=
    readValue.eq_2 ..
  rw [hvalue, readText_closed]
  rfl

/-- One member is read, and then it is seen whether others come. -/
theorem readMembers_member (steps levels : Nat) (m : Member) (rest : List Char) :
    readMembers (steps + 2) levels ('"' :: (memberRest m ++ rest)) =
      match skipSpaces rest with
      | '\x7d' :: rest => .ok ([m.read], rest)
      | ',' :: rest =>
        (readMembers (steps + 1) levels (skipSpaces rest)).map fun r => (m.read :: r.1, r.2)
      | _ => .error .malformed := by
  have hsplit : memberRest m ++ rest =
      closed m.1 ++ ':' :: ' ' :: '"' :: (closed m.2 ++ rest) := by
    simp only [memberRest, List.append_assoc, List.cons_append]
  rw [hsplit, readMembers, readText_closed]
  change (readValue (steps + 1) levels ('"' :: (closed m.2 ++ rest))).bind _ = _
  rw [readValue_closed]
  rfl

/-- Members are read one by one, as they were written. -/
theorem readMembers_written (levels : Nat) (m : Member) (ms : List Member) (rest : List Char)
    {steps : Nat} (hsteps : ms.length + 1 < steps) :
    readMembers steps levels ('"' :: (memberRest m ++ (behind ms ++ rest))) =
      .ok ((m :: ms).map Member.read, rest) := by
  obtain ⟨steps, rfl⟩ : ∃ n, steps = n + 2 := ⟨steps - 2, by omega⟩
  induction ms generalizing m steps with
  | nil =>
    rw [readMembers_member]
    rfl
  | cons m' ms ih =>
    have hcomma : skipSpaces (behind (m' :: ms) ++ rest) =
        ',' :: '\n' :: ' ' :: ' ' :: '"' :: (memberRest m' ++ (behind ms ++ rest)) := by
      simp only [behind, List.append_assoc]
      rfl
    rw [List.length_cons] at hsteps
    obtain ⟨steps, rfl⟩ : ∃ n, steps = n + 1 := ⟨steps - 1, by omega⟩
    rw [readMembers_member, hcomma]
    change (readMembers (steps + 2) levels
      ('"' :: (memberRest m' ++ (behind ms ++ rest)))).map _ = _
    rw [ih m' steps (by omega)]
    rfl

/-! ## Tables -/

/-- A flat object with a line for each member, without its brace. -/
def tableRest : List Member → List Char
  | [] => ['\x7d']
  | m :: ms => ['\n', ' ', ' ', '"'] ++ memberRest m ++ behind ms

/-- A member is written behind two blanks, with its key first. -/
theorem writeMember_entry (m : Member) :
    writeMember m.entry = ofChars ([' ', ' ', '"'] ++ memberRest m) := by
  have htext : writeMember m.entry = ofChars [' ', ' '] ++ ofChars ('"' :: closed m.1) ++
      ofChars [':', ' '] ++ ofChars ('"' :: closed m.2) := by
    rw [writeMember, Member.entry, writeText_ofChars, writeText_ofChars]
  rw [htext]
  simp only [← ofChars_append, memberRest, List.append_assoc, List.cons_append, List.nil_append]

/-- Members are written each on a line of its own, and the brace behind them ends the table. -/
theorem writeMembers_entries (m : Member) (ms : List Member) :
    writeMembers ((m :: ms).map Member.entry) ++ ofChars ['\n', '\x7d'] =
      ofChars ([' ', ' ', '"'] ++ memberRest m ++ behind ms) := by
  induction ms generalizing m with
  | nil =>
    rw [List.map_singleton, writeMembers, writeMember_entry, ← ofChars_append]
    rfl
  | cons m' ms ih =>
    have hsplit : writeMembers ((m :: m' :: ms).map Member.entry) =
        writeMember m.entry ++ ofChars [',', '\n'] ++
          writeMembers ((m' :: ms).map Member.entry) := rfl
    rw [hsplit, List.append_assoc, ih m', writeMember_entry, ← ofChars_append, ← ofChars_append]
    simp only [behind, List.append_assoc, List.cons_append, List.nil_append]

/-- A table is written as an object with a line for each member. -/
theorem writeTable_entries (ms : List Member) :
    writeTable (ms.map Member.entry) = ofChars ('\x7b' :: tableRest ms) := by
  cases ms with
  | nil => rfl
  | cons m ms =>
    have htable : writeTable ((m :: ms).map Member.entry) =
        ofChars ['\x7b', '\n'] ++ (writeMembers ((m :: ms).map Member.entry) ++
          ofChars ['\n', '\x7d']) := by
      rw [← List.append_assoc]
      rfl
    rw [htable, writeMembers_entries, ← ofChars_append]
    simp only [tableRest, List.cons_append, List.nil_append]

/-- Every member takes more characters than steps. -/
theorem length_lt_length_tableRest (ms : List Member) : ms.length < (tableRest ms).length := by
  have hbehind : ∀ ms : List Member, ms.length < (behind ms).length := by
    intro ms
    induction ms with
    | nil => decide
    | cons m ms ih =>
      simp only [behind, List.length_append, List.length_cons, List.length_nil]
      omega
  cases ms with
  | nil => decide
  | cons m ms =>
    have hms := hbehind ms
    simp only [tableRest, List.length_append, List.length_cons, List.length_nil]
    omega

/-- The object that was written is read, and what stands behind it is left. -/
theorem readValue_written (levels : Nat) (ms : List Member) (rest : List Char) {steps : Nat}
    (hsteps : ms.length < steps) :
    readValue (steps + 1) (levels + 1) ('\x7b' :: (tableRest ms ++ rest)) =
      .ok (.object (ms.map Member.read), rest) := by
  rw [readValue]
  cases ms with
  | nil => rfl
  | cons m ms =>
    have hspaces : skipSpaces (tableRest (m :: ms) ++ rest) =
        '"' :: (memberRest m ++ (behind ms ++ rest)) := by
      simp only [tableRest, List.append_assoc]
      rfl
    rw [hspaces]
    change (readMembers steps levels ('"' :: (memberRest m ++ (behind ms ++ rest)))).map _ = _
    rw [readMembers_written levels m ms rest hsteps]
    rfl

/-- **A table that was written is read back.** Whatever characters the texts of its members have,
the reader returns the members as they were written, in their order. -/
theorem read_table (levels : Nat) (ms : List Member) :
    read (levels + 1) (String.ofList ('\x7b' :: (tableRest ms ++ ['\n']))) =
      .ok (.object (ms.map Member.read)) := by
  have hlength := length_lt_length_tableRest ms
  have hsteps : ms.length < ('\x7b' :: (tableRest ms ++ ['\n'])).length := by
    rw [List.length_cons, List.length_append]
    omega
  rw [read, String.toList_ofList]
  change (readValue _ (levels + 1) ('\x7b' :: (tableRest ms ++ ['\n']))).bind _ = _
  rw [readValue_written levels ms _ hsteps]
  rfl

/-! ## What is written -/

/-- No character is escaped by a carriage return. -/
theorem escapeChar_no_return (c : Char) : '\r' ∉ escapeChar c := by
  unfold escapeChar
  iterate 7
    split
    · decide
  split
  · rename_i hcontrol
    have hdigits : ∀ n < 0x20, '\r' ∉ ['\\', 'u'] ++ Text.hexDigits 4 n := by decide
    exact hdigits _ hcontrol
  · rename_i hreturn _ _ _ _
    exact fun hmem => hreturn (List.mem_singleton.mp hmem).symm

/-- A text between quotes has no carriage return. -/
theorem closed_no_return (cs : List Char) : '\r' ∉ closed cs := by
  intro hmem
  rcases List.mem_append.mp hmem with hmem | hmem
  · obtain ⟨c, -, hc⟩ := List.mem_flatMap.mp hmem
    exact escapeChar_no_return c hc
  · exact absurd hmem (by decide)

/-- No carriage return is written as it is. -/
theorem tableRest_no_return (ms : List Member) : '\r' ∉ tableRest ms := by
  have hmember : ∀ m, '\r' ∉ memberRest m := by
    intro m
    simp [memberRest, closed_no_return]
  have hbehind : ∀ ms, '\r' ∉ behind ms := by
    intro ms
    induction ms with
    | nil => decide
    | cons m ms ih => simp [behind, hmember, ih]
  cases ms with
  | nil => decide
  | cons m ms => simp [tableRest, hmember, hbehind]

/-- A lone surrogate is written as it is. -/
theorem lone_mem_writeText {w : Wide} {code : Nat} (h : .lone code ∈ w) :
    .lone code ∈ writeText w := by
  have hpoints : Point.lone code ∈ w.flatMap escapePoint :=
    List.mem_flatMap.mpr ⟨.lone code, h, List.mem_singleton.mpr rfl⟩
  exact List.mem_append_left _ (List.mem_cons_of_mem _ hpoints)

/-- A lone surrogate of a member is written as it is. -/
theorem lone_mem_writeMember {m : Wide × Wide} {code : Nat}
    (h : .lone code ∈ m.1 ∨ .lone code ∈ m.2) : .lone code ∈ writeMember m := by
  rcases h with h | h
  · exact List.mem_append_left _ (List.mem_append_left _
      (List.mem_append_right _ (lone_mem_writeText h)))
  · exact List.mem_append_right _ (lone_mem_writeText h)

/-- What is written for a member is written for all of them. -/
theorem mem_writeMembers {m : Wide × Wide} {p : Point} {ms : List (Wide × Wide)} (hm : m ∈ ms)
    (hp : p ∈ writeMember m) : p ∈ writeMembers ms := by
  induction ms with
  | nil => cases hm
  | cons first rest ih =>
    cases rest with
    | nil =>
      rw [List.mem_singleton] at hm
      rw [writeMembers, ← hm]
      exact hp
    | cons second rest =>
      rw [writeMembers, List.mem_append, List.mem_append]
      · rcases List.mem_cons.mp hm with rfl | hm
        · exact .inl (.inl hp)
        · exact .inr (ih hm)
      · exact nofun

/-- What is written for a member is in the table. -/
theorem mem_writeTable {m : Wide × Wide} {p : Point} {ms : List (Wide × Wide)} (hm : m ∈ ms)
    (hp : p ∈ writeMember m) : p ∈ writeTable ms := by
  cases ms with
  | nil => cases hm
  | cons first rest =>
    exact List.mem_append_left _ (List.mem_append_right _ (mem_writeMembers hm hp))

/-- A table that is written without lone surrogates has none in its texts. -/
theorem exists_members {entries : List (Wide × Wide)}
    (h : ∀ code, .lone code ∉ writeTable entries) :
    ∃ ms : List Member, entries = ms.map Member.entry := by
  have hentry : ∀ e ∈ entries, ∃ m : Member, e = m.entry := by
    intro e he
    have hlone : ∀ code, ¬(.lone code ∈ e.1 ∨ .lone code ∈ e.2) :=
      fun code hcode => h code (mem_writeTable he (lone_mem_writeMember hcode))
    obtain ⟨key, hkey⟩ := Text.Wide.eq_ofChars_of_no_lone fun code hmem => hlone code (.inl hmem)
    obtain ⟨value, hvalue⟩ := Text.Wide.eq_ofChars_of_no_lone fun code hmem =>
      hlone code (.inr hmem)
    exact ⟨(key, value), Prod.ext hkey hvalue⟩
  clear h
  induction entries with
  | nil => exact ⟨[], rfl⟩
  | cons e rest ih =>
    obtain ⟨m, hm⟩ := hentry e List.mem_cons_self
    obtain ⟨ms, hms⟩ := ih fun e' he' => hentry e' (List.mem_cons_of_mem _ he')
    exact ⟨m :: ms, by rw [List.map_cons, ← hm, ← hms]⟩

end ChatRelay.Json
