import ChatRelay.Path
import ChatRelay.Proofs.Lines
import Mathlib.Data.List.Induction
import Mathlib.Data.List.Infix
import Mathlib.Data.List.TakeWhile

/-!
# Names and suffixes of paths

A path that has a last name is its parent with that name (`Path.withName_name`), and paths with the
same parent differ in nothing but their last names, which end their texts (`Path.toText_child`). A
name is its stem and its suffix (`Path.stem_append_suffix`), and the extension of a text is that of
its last name (`Path.extensionOf_child`). A text that is read as a path has a last name unless there
are only dots that stand alone between its slashes (`Path.name_ofText_eq_empty_iff`).
-/

namespace ChatRelay.Path

/-! ## Last names -/

/-- The last name of a child is its name. -/
@[simp] theorem name_child (p : Path) (name : String) : (p.child name).name = name := by
  simp only [Path.name, child, List.getLast?_concat, Option.getD_some]

/-- The parent of a child is the path that it is a child of. -/
@[simp] theorem parent_child (p : Path) (name : String) : (p.child name).parent = p := by
  simp only [parent, child, List.dropLast_concat]

/-- A path with another last name has that name. -/
@[simp] theorem name_withName (p : Path) (name : String) : (p.withName name).name = name :=
  p.parent.name_child name

/-- A path with another last name has the same parent. -/
@[simp] theorem parent_withName (p : Path) (name : String) :
    (p.withName name).parent = p.parent :=
  p.parent.parent_child name

/-- A path that has a last name is its parent with that name. -/
theorem withName_name {p : Path} (h : p.name ≠ "") : p.withName p.name = p := by
  have hne : p.names ≠ [] := by
    intro hnil
    rw [Path.name, hnil] at h
    exact h rfl
  have hlast : p.name = p.names.getLast hne := by
    rw [Path.name, List.getLast?_eq_some_getLast hne, Option.getD_some]
  rw [withName, child, parent, hlast, List.dropLast_concat_getLast]

/-! ## Texts -/

/-- The text of a path up to a name that comes next. -/
def lead (p : Path) : String :=
  p.root ++ String.ofList (p.names.flatMap fun name => name.toList ++ ['/'])

/-- Before the last name every name has a slash behind it. -/
theorem intercalate_concat (names : List String) (name : String) :
    ("/".intercalate (names ++ [name])).toList =
      (names.flatMap fun name => name.toList ++ ['/']) ++ name.toList := by
  rw [String.toList_intercalate]
  induction names with
  | nil => simp
  | cons first rest ih =>
    have hne : (rest ++ [name]).map String.toList ≠ [] := by simp
    rw [List.cons_append, List.map_cons, List.intercalate_cons_of_ne_nil hne, ih,
      List.flatMap_cons]
    simp

/-- Paths with the same parent have texts that start in the same way and end with their names. -/
theorem toText_child (p : Path) (name : String) : (p.child name).toText = p.lead ++ name := by
  have hnames : (p.child name).names.isEmpty = false := by simp [child]
  rw [toText, hnames, Bool.and_false, if_neg Bool.false_ne_true, lead]
  apply String.toList_injective
  simp only [String.toList_append, child, intercalate_concat, String.toList_ofList,
    List.append_assoc]

/-- Children of one path have the same text only where they have the same name. -/
theorem toText_child_inj {p : Path} {name name' : String} :
    (p.child name).toText = (p.child name').toText ↔ name = name' := by
  rw [toText_child, toText_child]
  constructor
  · intro h
    have hlist := congrArg String.toList h
    rw [String.toList_append, String.toList_append, List.append_cancel_left_eq] at hlist
    exact String.toList_injective hlist
  · rintro rfl
    rfl

/-! ## Texts that are read as paths -/

/-- A slash at the start has an empty part before it. -/
theorem splitSlashes_slash (cs : List Char) :
    splitSlashes ('/' :: cs) = [] :: splitSlashes cs := by
  rw [splitSlashes, List.foldr_cons, if_pos rfl, splitSlashes]

/-- A character that is no slash stands in the first part. -/
theorem splitSlashes_cons {cs part : List Char} {more : List (List Char)} {d : Char} (hd : d ≠ '/')
    (h : splitSlashes cs = part :: more) : splitSlashes (d :: cs) = (d :: part) :: more := by
  rw [splitSlashes] at h ⊢
  rw [List.foldr_cons, h, if_neg hd]

/-- There is always a first part. -/
theorem exists_splitSlashes (cs : List Char) : ∃ part more, splitSlashes cs = part :: more := by
  induction cs with
  | nil => exact ⟨[], [], rfl⟩
  | cons d rest ih =>
    obtain ⟨part, more, hparts⟩ := ih
    by_cases hd : d = '/'
    · exact ⟨[], splitSlashes rest, hd ▸ splitSlashes_slash rest⟩
    · exact ⟨d :: part, more, splitSlashes_cons hd hparts⟩

/-- What a text holds besides slashes stands in one of its parts. -/
theorem mem_splitSlashes_iff {cs : List Char} {c : Char} (hc : c ≠ '/') :
    (∃ part ∈ splitSlashes cs, c ∈ part) ↔ c ∈ cs := by
  induction cs with
  | nil =>
    have hparts : splitSlashes [] = [[]] := rfl
    simp [hparts]
  | cons d rest ih =>
    by_cases hd : d = '/'
    · rw [hd, splitSlashes_slash, List.exists_mem_cons_iff, ih]
      simp [hc]
    · obtain ⟨part, more, hparts⟩ := exists_splitSlashes rest
      rw [hparts, List.exists_mem_cons_iff] at ih
      rw [splitSlashes_cons hd hparts, List.exists_mem_cons_iff, List.mem_cons, List.mem_cons, ← ih,
        or_assoc]

/-- A path has the names that stand between the slashes of its text, but for empty ones and dots
that stand alone. -/
theorem mem_names_ofText_iff {s name : String} :
    name ∈ (ofText s).names ↔ name.toList ∈ splitSlashes s.toList ∧ name ≠ "" ∧ name ≠ "." := by
  have hparts : name ∈ (splitSlashes s.toList).map String.ofList ↔
      name.toList ∈ splitSlashes s.toList := by
    rw [List.mem_map]
    constructor
    · rintro ⟨part, hpart, rfl⟩
      rwa [String.toList_ofList]
    · exact fun hmem => ⟨name.toList, hmem, String.ofList_toList⟩
  rw [ofText, List.mem_filter, hparts, Bool.and_eq_true, bne_iff_ne, bne_iff_ne]

/-- A text that is read as a path has no last name just where there is nothing between its slashes
but dots that stand alone. -/
theorem name_ofText_eq_empty_iff {s : String} :
    (ofText s).name = "" ↔ ∀ part ∈ splitSlashes s.toList, part = [] ∨ part = ['.'] := by
  have hnil : (ofText s).name = "" ↔ (ofText s).names = [] := by
    constructor
    · intro hname
      by_contra hne
      have hlast := List.getLast_mem hne
      have hempty : (ofText s).names.getLast hne = "" := by
        rw [name, List.getLast?_eq_some_getLast hne, Option.getD_some] at hname
        exact hname
      exact (mem_names_ofText_iff.mp hlast).2.1 hempty
    · intro hnil
      rw [name, hnil]
      rfl
  rw [hnil, List.eq_nil_iff_forall_not_mem]
  constructor
  · intro hnone part hpart
    have hout := hnone (String.ofList part)
    rw [mem_names_ofText_iff, String.toList_ofList] at hout
    by_contra hother
    rw [not_or] at hother
    refine hout ⟨hpart, fun heq => hother.1 ?_, fun heq => hother.2 ?_⟩
    · simpa using congrArg String.toList heq
    · simpa using congrArg String.toList heq
  · intro hall name hmem
    obtain ⟨hpart, hempty, hdot⟩ := mem_names_ofText_iff.mp hmem
    rcases hall _ hpart with heq | heq
    · exact hempty (String.toList_eq_nil_iff.mp heq)
    · exact hdot (String.toList_injective heq)

/-- What the text of a path holds besides slashes and dots stands in its root or in a name. -/
theorem mem_toText_iff {p : Path} {c : Char} (hslash : c ≠ '/') (hdot : c ≠ '.') :
    c ∈ p.toText.toList ↔ c ∈ p.root.toList ∨ ∃ name ∈ p.names, c ∈ name.toList := by
  rw [toText]
  split
  · rename_i hnone
    rw [Bool.and_eq_true, decide_eq_true_eq, List.isEmpty_iff] at hnone
    rw [hnone.1, hnone.2]
    simp [hdot]
  · rw [String.toList_append, List.mem_append, String.toList_intercalate]
    refine or_congr Iff.rfl ⟨fun hmem => ?_, ?_⟩
    · by_contra hnone
      have hpieces : ∀ piece ∈ p.names.map String.toList, c ∉ piece := by
        intro piece hpiece hc
        obtain ⟨name, hname, rfl⟩ := List.mem_map.mp hpiece
        exact hnone ⟨name, hname, hc⟩
      have hsep : c ∉ "/".toList := fun hc => hslash (List.mem_singleton.mp hc)
      exact Text.not_mem_intercalate hsep hpieces hmem
    · rintro ⟨name, hname, hc⟩
      exact Text.mem_intercalate (List.mem_map_of_mem hname) hc

/-- Reading a text as a path loses no characters but slashes and dots. -/
theorem mem_toText_ofText_iff {s : String} {c : Char} (hslash : c ≠ '/') (hdot : c ≠ '.') :
    c ∈ (ofText s).toText.toList ↔ c ∈ s.toList := by
  have hroot : c ∉ (ofText s).root.toList := by
    rw [ofText]
    dsimp only
    unfold rootOf
    split <;> simp [hslash]
  rw [mem_toText_iff hslash hdot, or_iff_right hroot, ← mem_splitSlashes_iff hslash]
  constructor
  · rintro ⟨name, hname, hc⟩
    exact ⟨name.toList, (mem_names_ofText_iff.mp hname).1, hc⟩
  · rintro ⟨part, hpart, hc⟩
    have hlist : (String.ofList part).toList = part := String.toList_ofList
    refine ⟨String.ofList part, mem_names_ofText_iff.mpr ⟨hlist.symm ▸ hpart, ?_, ?_⟩, ?_⟩
    · intro heq
      rw [← hlist, heq] at hc
      exact List.not_mem_nil hc
    · intro heq
      rw [← hlist, heq] at hc
      exact hdot (List.mem_singleton.mp hc)
    · rwa [hlist]

/-- What the text of the parent holds besides slashes and dots, the text of the path holds too. -/
theorem mem_toText_of_parent {p : Path} {c : Char} (hslash : c ≠ '/') (hdot : c ≠ '.')
    (h : c ∈ p.parent.toText.toList) : c ∈ p.toText.toList := by
  rw [mem_toText_iff hslash hdot] at h ⊢
  refine h.imp_right ?_
  rintro ⟨name, hname, hc⟩
  exact ⟨name, List.mem_of_mem_dropLast hname, hc⟩

/-- Without a last name a path holds nothing besides slashes and dots that its parent does not. -/
theorem mem_toText_parent {p : Path} {c : Char} (hslash : c ≠ '/') (hdot : c ≠ '.')
    (hname : p.name = "") (h : c ∈ p.toText.toList) : c ∈ p.parent.toText.toList := by
  rw [mem_toText_iff hslash hdot] at h ⊢
  refine h.imp_right ?_
  rintro ⟨name, hmem, hc⟩
  have hne : p.names ≠ [] := List.ne_nil_of_mem hmem
  have hlast : p.names.getLast hne = "" := by
    rw [Path.name, List.getLast?_eq_some_getLast hne, Option.getD_some] at hname
    exact hname
  rw [← List.dropLast_concat_getLast hne, hlast] at hmem
  rcases List.mem_append.mp hmem with hbefore | hempty
  · exact ⟨name, hbefore, hc⟩
  · rw [List.mem_singleton.mp hempty] at hc
    exact absurd hc List.not_mem_nil

/-! ## Suffixes -/

/-- A text that has a dot is what stands before its last dot, the dot, and what stands behind it. -/
theorem eq_append_last_dot {cs : List Char}
    (h : (cs.reverse.takeWhile (· ≠ '.')).length < cs.length) :
    ∃ before, cs = before ++ '.' :: (cs.reverse.takeWhile (· ≠ '.')).reverse := by
  have hsplit := List.takeWhile_append_dropWhile (p := (· ≠ '.')) (l := cs.reverse)
  cases hdrop : cs.reverse.dropWhile (· ≠ '.') with
  | nil =>
    rw [hdrop, List.append_nil] at hsplit
    rw [hsplit, List.length_reverse] at h
    exact absurd h (Nat.lt_irrefl _)
  | cons c rest =>
    have hdot : c = '.' := by
      have hnot := List.head?_dropWhile_not (· ≠ '.') cs.reverse
      rw [hdrop] at hnot
      simpa using hnot
    refine ⟨rest.reverse, ?_⟩
    rw [hdrop, hdot] at hsplit
    have hcs := congrArg List.reverse hsplit
    rw [List.reverse_reverse, List.reverse_append, List.reverse_cons, List.append_assoc] at hcs
    exact hcs.symm

/-- A name is its stem and its suffix, whether it has a suffix or not. -/
theorem stem_append_suffix (p : Path) : p.stem ++ p.suffix = p.name := by
  apply String.toList_injective
  rw [String.toList_append, stem, String.toList_ofList, suffix]
  split
  · rw [String.length_empty, Nat.sub_zero, ← String.length_toList, List.take_length,
      String.toList_empty, List.append_nil]
  · rename_i hshort
    rw [Bool.or_eq_true, not_or, decide_eq_true_eq, Nat.not_le, List.length_reverse] at hshort
    obtain ⟨before, hcs⟩ := eq_append_last_dot (Nat.lt_of_succ_lt hshort.2)
    generalize (p.name.toList.reverse.takeWhile (· ≠ '.')).reverse = tail at hcs ⊢
    have hlength : p.name.length - (String.ofList ('.' :: tail)).length = before.length := by
      rw [← String.length_toList, hcs, String.length_ofList, List.length_append,
        Nat.add_sub_cancel]
    rw [hlength, String.toList_ofList, hcs, List.take_left']
    rfl

/-- What is put behind the suffix is put behind the name. -/
theorem withSuffix_append (p : Path) (more : String) :
    p.withSuffix (p.suffix ++ more) = p.withName (p.name ++ more) := by
  rw [withSuffix, ← String.append_assoc, stem_append_suffix]

/-! ## Extensions -/

/-- No slash stands between slashes. -/
theorem not_mem_of_mem_splitSlashes {cs part : List Char} (h : part ∈ splitSlashes cs) :
    '/' ∉ part := by
  induction cs generalizing part with
  | nil =>
    have hpart : part = [] := List.mem_singleton.mp h
    rw [hpart]
    exact List.not_mem_nil
  | cons c rest ih =>
    by_cases hc : c = '/'
    · rw [hc, splitSlashes_slash] at h
      rcases List.mem_cons.mp h with rfl | hmem
      · exact List.not_mem_nil
      · exact ih hmem
    · obtain ⟨first, more, hparts⟩ := exists_splitSlashes rest
      rw [hparts] at ih
      rw [splitSlashes_cons hc hparts] at h
      have hslash : '/' ≠ c := fun he => hc he.symm
      rcases List.mem_cons.mp h with rfl | hmem
      · exact List.not_mem_cons_of_ne_of_not_mem hslash (ih List.mem_cons_self)
      · exact ih (List.mem_cons_of_mem _ hmem)

/-- A text without a slash is one part. -/
theorem splitSlashes_of_not_mem {cs : List Char} (h : '/' ∉ cs) : splitSlashes cs = [cs] := by
  induction cs with
  | nil => rfl
  | cons c rest ih =>
    rw [List.mem_cons, not_or] at h
    have hc : c ≠ '/' := fun he => h.1 he.symm
    exact splitSlashes_cons hc (ih h.2)

/-- What stands behind the last slash is the last part, and not the only one. -/
theorem splitSlashes_append {cs : List Char} (h : '/' ∉ cs) (before : List Char) :
    ∃ first more, splitSlashes (before ++ '/' :: cs) = first :: more ++ [cs] := by
  induction before with
  | nil =>
    refine ⟨[], [], ?_⟩
    rw [List.nil_append, splitSlashes_slash, splitSlashes_of_not_mem h]
    rfl
  | cons c rest ih =>
    obtain ⟨first, more, hrest⟩ := ih
    rw [List.cons_append]
    by_cases hc : c = '/'
    · rw [hc, splitSlashes_slash, hrest]
      exact ⟨[], first :: more, rfl⟩
    · exact ⟨c :: first, more, splitSlashes_cons hc hrest⟩

/-- The text of a path up to a name that comes next ends with a slash, unless it is empty. -/
theorem lead_ofText (s : String) :
    (ofText s).lead.toList = [] ∨ ∃ before, (ofText s).lead.toList = before ++ ['/'] := by
  have hroot : ∀ cs, (rootOf cs).toList = [] ∨ ∃ before, (rootOf cs).toList = before ++ ['/'] := by
    intro cs
    unfold rootOf
    split
    · exact .inr ⟨[], rfl⟩
    · exact .inr ⟨['/'], rfl⟩
    · exact .inr ⟨[], rfl⟩
    · exact .inl rfl
  rw [lead, String.toList_append, String.toList_ofList]
  cases hnames : (ofText s).names using List.reverseRecOn with
  | nil =>
    rw [List.flatMap_nil, List.append_nil]
    exact hroot s.toList
  | append_singleton names name _ =>
    rw [List.flatMap_append, List.flatMap_singleton, ← List.append_assoc, ← List.append_assoc]
    exact .inr ⟨_, rfl⟩

/-- The extension of a text that has no slash, or of what stands behind its last slash. -/
theorem extensionOf_append {lead name : String} (hname : '/' ∉ name.toList)
    (hlead : lead.toList = [] ∨ ∃ before, lead.toList = before ++ ['/']) :
    extensionOf (lead ++ name) = extensionOf name := by
  have hlast : (splitSlashes (lead ++ name).toList).getLast? = some name.toList := by
    rw [String.toList_append]
    rcases hlead with hnil | ⟨before, hbefore⟩
    · rw [hnil, List.nil_append, splitSlashes_of_not_mem hname]
      rfl
    · obtain ⟨first, more, hparts⟩ := splitSlashes_append hname before
      rw [hbefore, List.append_assoc, List.singleton_append, hparts, List.getLast?_concat]
  have hself : (splitSlashes name.toList).getLast? = some name.toList := by
    rw [splitSlashes_of_not_mem hname]
    rfl
  rw [extensionOf, extensionOf, hlast, hself]

/-- The extension of a path is that of its last name. -/
theorem extensionOf_child (directory : String) {name : String} (h : '/' ∉ name.toList) :
    extensionOf ((ofText directory).child name).toText = extensionOf name := by
  rw [toText_child]
  exact extensionOf_append h (lead_ofText directory)

/-- An extension that is not empty is a dot with neither a dot nor a slash behind it. -/
theorem extensionOf_cases (name : String) :
    extensionOf name = "" ∨
      ∃ tail, (extensionOf name).toList = '.' :: tail ∧ '.' ∉ tail ∧ '/' ∉ tail := by
  unfold extensionOf
  generalize hlast : ((splitSlashes name.toList).getLast?).getD [] = cs
  dsimp only
  split
  · refine .inr ⟨_, String.toList_ofList, fun hdot => ?_, fun hslash => ?_⟩
    · have hne := List.mem_takeWhile_imp (List.mem_reverse.mp hdot)
      exact absurd rfl (of_decide_eq_true hne)
    · have hmem : '/' ∈ cs :=
        (List.dropWhile_sublist _).subset
          (List.mem_reverse.mp ((List.takeWhile_sublist _).subset (List.mem_reverse.mp hslash)))
      cases hparts : (splitSlashes name.toList).getLast? with
      | none =>
        rw [hparts] at hlast
        rw [← hlast] at hmem
        exact absurd hmem List.not_mem_nil
      | some part =>
        rw [hparts, Option.getD_some] at hlast
        rw [← hlast] at hmem
        exact not_mem_of_mem_splitSlashes (List.mem_of_getLast? hparts) hmem
  · exact .inl rfl

/-- What is put behind a text without dots and slashes is its extension, when it looks like one. -/
theorem extensionOf_of_plain {unique extension : String} {tail : List Char} (hne : unique ≠ "")
    (hplain : ∀ c ∈ unique.toList, c ≠ '.' ∧ c ≠ '/') (hextension : extension.toList = '.' :: tail)
    (hdot : '.' ∉ tail) (hslash : '/' ∉ tail) : extensionOf (unique ++ extension) = extension := by
  have hlist : (unique ++ extension).toList = unique.toList ++ '.' :: tail := by
    rw [String.toList_append, hextension]
  have hnoslash : '/' ∉ (unique ++ extension).toList := by
    rw [hlist, List.mem_append, List.mem_cons, not_or, not_or]
    exact ⟨fun hmem => (hplain _ hmem).2 rfl, by decide, hslash⟩
  have hbody : (unique.toList ++ '.' :: tail).dropWhile (· = '.') =
      unique.toList ++ '.' :: tail := by
    cases hunique : unique.toList with
    | nil => exact absurd (String.toList_eq_nil_iff.mp hunique) hne
    | cons c rest =>
      have hc : c ≠ '.' := (hplain c (hunique ▸ List.mem_cons_self)).1
      rw [List.cons_append, List.dropWhile_cons_of_neg (by simpa using hc)]
  have htail : (unique.toList ++ '.' :: tail).reverse.takeWhile (· ≠ '.') = tail.reverse := by
    have hreverse : (unique.toList ++ '.' :: tail).reverse =
        tail.reverse ++ '.' :: unique.toList.reverse := by simp
    have hall : ∀ c ∈ tail.reverse, decide (c ≠ '.') = true := fun c hc =>
      decide_eq_true fun he => hdot (he ▸ List.mem_reverse.mp hc)
    rw [hreverse, List.takeWhile_append_of_pos hall,
      List.takeWhile_cons_of_neg (by simp), List.append_nil]
  have hcontains : (unique.toList ++ '.' :: tail).contains '.' = true := by simp
  rw [extensionOf, splitSlashes_of_not_mem hnoslash, hlist]
  simp only [List.getLast?_singleton, Option.getD_some, hbody, htail, hcontains, if_true,
    List.reverse_reverse]
  rw [← hextension, String.ofList_toList]

end ChatRelay.Path
