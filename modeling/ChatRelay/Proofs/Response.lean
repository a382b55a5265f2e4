import ChatRelay.Directive.Response
import ChatRelay.Proofs.Opener

/-!
# Reading lines one after the other

A text is read line by line, and all that one line leaves for the next ones is the heredoc that is
open. `Heredoc.pass` says what a line does to it, and `Response.given` which directives the line
gives. So reading lines and then more lines is reading the lines, and then the others with the
heredoc that the first ones leave open (`Response.scan_append`). At the end of the text an open
heredoc gives one more directive (`Response.parse_eq`).

The main statement is `Response.parse_compositional`.
-/

namespace ChatRelay

open Text

namespace Heredoc

/-- What a line does to the heredoc that is perhaps open. -/
def pass (h : Heredoc) (line : String) : Heredoc :=
  match h.opener with
  | some o => if line = o.delimiter then .closed else h.addLine line
  | none =>
    match Line.read line with
    | .ok (.opens o) => h.start o
    | _ => h

/-- The heredoc that lines leave open. -/
def after (h : Heredoc) (ls : List String) : Heredoc := ls.foldl pass h

/-- What is given for a heredoc that is open at the end. -/
def flush (h : Heredoc) : List Directive :=
  match h.opener with
  | some _ => [h.directive]
  | none => []

/-- More lines go on with the heredoc that the lines before them leave open. -/
theorem after_append (h : Heredoc) (ls ls' : List String) :
    h.after (ls ++ ls') = (h.after ls).after ls' :=
  List.foldl_append

/-- A heredoc that was opened by a line, and none that holds lines without having been opened. -/
structure Sound (h : Heredoc) : Prop where
  opened : ∀ o, h.opener = some o → o.Sound
  closed : h.opener = none → h = .closed

/-- The heredoc that is not open is sound. -/
theorem closed_sound : closed.Sound where
  opened := by
    intro o ho
    cases ho
  closed := fun _ => rfl

/-- Every line leaves a sound heredoc sound. -/
theorem Sound.pass {h : Heredoc} (hs : h.Sound) (line : String) : (h.pass line).Sound := by
  unfold Heredoc.pass
  cases ho : h.opener with
  | some o =>
    by_cases hd : line = o.delimiter
    · simp only [hd, if_true]
      exact closed_sound
    · simp only [hd, if_false]
      refine ⟨hs.opened, fun hn => ?_⟩
      rw [addLine, ho] at hn
      cases hn
  | none =>
    cases hr : Line.read line with
    | error refusal => exact hs
    | ok meaning =>
      cases meaning with
      | directive d => exact hs
      | opens o =>
        refine ⟨fun o' ho' => ?_, fun hn => by cases hn⟩
        cases ho'
        exact Line.read_opens hr

/-- Lines leave a sound heredoc sound. -/
theorem Sound.after {h : Heredoc} (hs : h.Sound) (ls : List String) : (h.after ls).Sound := by
  induction ls generalizing h with
  | nil => exact hs
  | cons line rest ih => exact ih (hs.pass line)

/-- Lines that leave no heredoc open leave nothing behind. -/
theorem after_eq_closed {ls : List String} (h : (closed.after ls).opener = none) :
    closed.after ls = closed :=
  (closed_sound.after ls).closed h

/-- The delimiter of an open heredoc is a line. -/
theorem isLine_delimiter {ls : List String} {o : Opener}
    (h : (closed.after ls).opener = some o) : IsLine o.delimiter :=
  ((closed_sound.after ls).opened o h).isLine

end Heredoc

namespace Response

/-- The directives that a line gives at once. -/
def given (h : Heredoc) (line : String) : Except Numeral.Refusal (List Directive) :=
  match h.opener with
  | some o => .ok (if line = o.delimiter then [h.directive] else [])
  | none =>
    (Line.read line).map fun
      | .directive d => [d]
      | .opens _ => []

/-- The directives that lines give before the end of the text. -/
def scan (h : Heredoc) : List String → Except Numeral.Refusal (List Directive)
  | [] => .ok []
  | line :: rest => (given h line).bind fun ds => (scan (h.pass line) rest).map (ds ++ ·)

/-- The directives of lines, which is none for no line. -/
def parse (ls : List String) : Except Numeral.Refusal (List Directive) :=
  if ls = [] then .ok [] else (read (joinLines ls)).directives

/-! ## Reading and scanning -/

/-- A line gives its directives, and the others are read with the heredoc that it leaves open. -/
theorem directives_cons (h : Heredoc) (line : String) (rest : List String) :
    (ofLines h (line :: rest)).directives =
      (given h line).bind fun ds => (ofLines (h.pass line) rest).directives.map (ds ++ ·) := by
  have hnone : ∀ x : Except Numeral.Refusal (List Directive), x = x.map ([] ++ ·) := by
    intro x
    cases x <;> rfl
  rw [ofLines]
  unfold given Heredoc.pass
  cases h.opener with
  | some o =>
    by_cases hd : line = o.delimiter
    · simp only [hd, if_true]
      rfl
    · simp only [hd, if_false]
      exact hnone _
  | none =>
    cases Line.read line with
    | error refusal => rfl
    | ok meaning =>
      cases meaning with
      | directive d => rfl
      | opens o => exact hnone _

/-- What the lines behind the first one add to its directives. -/
theorem directives_cons_ok {h : Heredoc} {line : String} {rest : List String}
    {ds : List Directive} (hread : (ofLines h (line :: rest)).directives = .ok ds) :
    ∃ first later, given h line = .ok first ∧
      (ofLines (h.pass line) rest).directives = .ok later ∧ ds = first ++ later := by
  rw [directives_cons] at hread
  cases hgiven : given h line with
  | error refusal =>
    rw [hgiven] at hread
    cases hread
  | ok first =>
    cases hrest : (ofLines (h.pass line) rest).directives with
    | error refusal =>
      rw [hgiven, hrest] at hread
      cases hread
    | ok later =>
      rw [hgiven, hrest] at hread
      cases hread
      exact ⟨first, later, rfl, rfl, rfl⟩

/-- Reading lines is scanning them, and then giving the heredoc that they leave open. -/
theorem directives_ofLines (h : Heredoc) (ls : List String) :
    (ofLines h ls).directives = (scan h ls).map (· ++ (h.after ls).flush) := by
  induction ls generalizing h with
  | nil =>
    unfold ofLines Heredoc.after Heredoc.flush
    cases ho : h.opener with
    | none => simp only [List.foldl_nil, ho, scan, empty, Except.map, List.append_nil]
    | some o =>
      simp only [List.foldl_nil, ho, scan, withNotes, cons, empty, Except.map, List.nil_append]
  | cons line rest ih =>
    have hafter : h.after (line :: rest) = (h.pass line).after rest := rfl
    rw [directives_cons, ih, scan, hafter]
    cases given h line with
    | error refusal => rfl
    | ok ds =>
      cases scan (h.pass line) rest with
      | error refusal => rfl
      | ok ds' => simp only [Except.bind, Except.map, List.append_assoc]

/-- Scanning lines and then more lines is scanning the lines, and then the others with the
heredoc that the first ones leave open. -/
theorem scan_append (h : Heredoc) (ls ls' : List String) :
    scan h (ls ++ ls') =
      (scan h ls).bind fun ds => (scan (h.after ls) ls').map (ds ++ ·) := by
  induction ls generalizing h with
  | nil =>
    simp only [List.nil_append, scan, Except.bind, Heredoc.after, List.foldl_nil]
    cases scan h ls' <;> rfl
  | cons line rest ih =>
    have hafter : h.after (line :: rest) = (h.pass line).after rest := rfl
    rw [List.cons_append, scan, scan, ih, hafter]
    cases given h line with
    | error refusal => rfl
    | ok ds =>
      cases scan (h.pass line) rest with
      | error refusal => rfl
      | ok ds' =>
        cases scan ((h.pass line).after rest) ls' with
        | error refusal => rfl
        | ok ds'' =>
          simp only [Except.bind, Except.map, List.append_assoc]

/-- Lines are scanned, unless one of them holds a number that is too long. -/
theorem scan_ok (h : Heredoc) {ls : List String} (hread : ∀ l ∈ ls, Line.Readable l) :
    ∃ ds, scan h ls = .ok ds := by
  induction ls generalizing h with
  | nil => exact ⟨[], rfl⟩
  | cons line rest ih =>
    obtain ⟨ds', hrest⟩ := ih (h.pass line) fun l hl => hread l (List.mem_cons_of_mem line hl)
    obtain ⟨meaning, hr⟩ := (hread line List.mem_cons_self).read
    have hline : ∃ ds, given h line = .ok ds := by
      unfold given
      cases h.opener with
      | some o => exact ⟨_, rfl⟩
      | none =>
        rw [hr]
        exact ⟨_, rfl⟩
    obtain ⟨ds, hline⟩ := hline
    refine ⟨ds ++ ds', ?_⟩
    rw [scan, hline, Except.bind, hrest, Except.map]

/-- The directives of lines are what is given while they are scanned and at the end. -/
theorem parse_eq {ls : List String} (hlines : ∀ l ∈ ls, IsLine l) :
    parse ls = (scan .closed ls).map (· ++ (Heredoc.closed.after ls).flush) := by
  unfold parse
  by_cases hne : ls = []
  · subst hne
    rfl
  · rw [if_neg hne, read, splitLines_joinLines hne hlines]
    exact directives_ofLines .closed ls

/-- Lines are parsed, unless one of them holds a number that is too long. -/
theorem parse_ok {ls : List String} (hlines : ∀ l ∈ ls, IsLine l)
    (hread : ∀ l ∈ ls, Line.Readable l) : ∃ ds, parse ls = .ok ds := by
  obtain ⟨ds, hscan⟩ := scan_ok .closed hread
  exact ⟨_, by rw [parse_eq hlines, hscan, Except.map]⟩

/-- Lines that leave no heredoc open do not matter to the lines after them. -/
theorem parse_append {ls ls' : List String} (hlines : ∀ l ∈ ls ++ ls', IsLine l)
    (hclosed : (Heredoc.closed.after ls).opener = none) :
    parse (ls ++ ls') = (parse ls).bind fun ds => (parse ls').map (ds ++ ·) := by
  obtain ⟨hfirst, hsecond⟩ := List.forall_mem_append.mp hlines
  have hafter : Heredoc.closed.after ls = .closed := Heredoc.after_eq_closed hclosed
  have hflush : Heredoc.closed.flush = [] := rfl
  rw [parse_eq hlines, parse_eq hfirst, parse_eq hsecond, scan_append, Heredoc.after_append,
    hafter, hflush]
  cases scan .closed ls with
  | error refusal => rfl
  | ok ds =>
    cases scan .closed ls' with
    | error refusal => rfl
    | ok ds' => simp only [Except.bind, Except.map, List.append_assoc, List.append_nil]

/-! ## Directives of lines -/

/-- A heredoc is a message to send, whatever its lines look like. -/
theorem directive_ne {d : Directive} (hsend : ∀ message, d ≠ .send message)
    (hsendTo : ∀ channel message, d ≠ .sendTo channel message) (h : Heredoc) :
    h.directive ≠ d := by
  unfold Heredoc.directive
  split
  · unfold Heredoc.Opener.directive
    split
    · split
      · exact (hsend _).symm
      · exact (hsendTo _ _).symm
    · exact (hsend _).symm
  · exact (hsend _).symm

/-- A directive that a line gives, and no heredoc, is the meaning of the line outside heredocs. -/
theorem line_of_given {h : Heredoc} {line : String} {ds : List Directive}
    (hgiven : given h line = .ok ds) {d : Directive} (hd : d ∈ ds)
    (hown : ∀ h' : Heredoc, h'.directive ≠ d) :
    h.opener = none ∧ Line.read line = .ok (.directive d) := by
  unfold given at hgiven
  cases ho : h.opener with
  | some o =>
    rw [ho] at hgiven
    dsimp only at hgiven
    split at hgiven
    · cases hgiven
      exact absurd (List.mem_singleton.mp hd).symm (hown h)
    · cases hgiven
      cases hd
  | none =>
    rw [ho] at hgiven
    refine ⟨rfl, ?_⟩
    cases hline : Line.read line with
    | error refusal =>
      rw [hline] at hgiven
      cases hgiven
    | ok meaning =>
      rw [hline] at hgiven
      cases meaning with
      | opens o =>
        cases hgiven
        cases hd
      | directive d' =>
        cases hgiven
        rw [List.mem_singleton.mp hd]

/-- A directive of lines that is none of a heredoc is the meaning of a line outside all heredocs. -/
theorem line_of_directive {h : Heredoc} {ls : List String} {ds : List Directive}
    (hread : (ofLines h ls).directives = .ok ds) {d : Directive} (hd : d ∈ ds)
    (hown : ∀ h' : Heredoc, h'.directive ≠ d) :
    ∃ before line after, ls = before ++ line :: after ∧ (h.after before).opener = none ∧
      Line.read line = .ok (.directive d) := by
  induction ls generalizing h ds with
  | nil =>
    unfold ofLines at hread
    cases ho : h.opener with
    | none =>
      rw [ho] at hread
      cases hread
      cases hd
    | some o =>
      rw [ho] at hread
      cases hread
      exact absurd (List.mem_singleton.mp hd).symm (hown h)
  | cons line rest ih =>
    obtain ⟨first, later, hgiven, hrest, rfl⟩ := directives_cons_ok hread
    rcases List.mem_append.mp hd with hfirst | hlater
    · obtain ⟨hclosed, hline⟩ := line_of_given hgiven hfirst hown
      exact ⟨[], line, rest, rfl, hclosed, hline⟩
    · obtain ⟨before, line', after, rfl, hclosed, hline⟩ := ih hrest hlater
      exact ⟨line :: before, line', after, rfl, hclosed, hline⟩

/-- The meaning of a line outside all heredocs is a directive of the lines. -/
theorem directive_of_line {h : Heredoc} {before after : List String} {line : String}
    {ds : List Directive} (hread : (ofLines h (before ++ line :: after)).directives = .ok ds)
    (hclosed : (h.after before).opener = none) {d : Directive}
    (hline : Line.read line = .ok (.directive d)) : d ∈ ds := by
  induction before generalizing h ds with
  | nil =>
    have hnone : h.opener = none := hclosed
    obtain ⟨first, later, hgiven, -, rfl⟩ := directives_cons_ok hread
    rw [given, hnone, hline] at hgiven
    cases hgiven
    exact List.mem_append_left _ (List.mem_singleton.mpr rfl)
  | cons other before ih =>
    obtain ⟨first, later, -, hlater, rfl⟩ := directives_cons_ok hread
    exact List.mem_append_right _ (ih hlater hclosed)

/-! ## Lines of an open heredoc -/

section Open

variable {h : Heredoc} {o : Heredoc.Opener}

/-- Until the delimiter, the lines of an open heredoc are held as they are. -/
theorem scan_of_open (ho : h.opener = some o) {ls : List String} (hd : o.delimiter ∉ ls) :
    scan h ls = .ok [] ∧ h.after ls = { opener := some o, held := ls.reverse ++ h.held } := by
  induction ls generalizing h with
  | nil =>
    refine ⟨rfl, ?_⟩
    rw [← ho]
    rfl
  | cons line rest ih =>
    have hline : ¬line = o.delimiter := fun he => hd (he ▸ List.mem_cons_self)
    have hrest : o.delimiter ∉ rest := fun hmem => hd (List.mem_cons_of_mem line hmem)
    have hpass : h.pass line = h.addLine line := by
      simp only [Heredoc.pass, ho, hline, if_false]
    have hgiven : given h line = .ok [] := by
      simp only [given, ho, hline, if_false]
    obtain ⟨hscan, hafter⟩ := ih (h := h.addLine line) ho hrest
    constructor
    · rw [scan, hgiven, hpass, Except.bind, hscan]
      rfl
    · have hcons : h.after (line :: rest) = (h.pass line).after rest := rfl
      rw [hcons, hpass, hafter, List.reverse_cons, List.append_assoc]
      rfl

/-- The delimiter ends the heredoc. -/
theorem scan_delimiter (ho : h.opener = some o) :
    scan h [o.delimiter] = .ok [h.directive] ∧ h.after [o.delimiter] = .closed := by
  have hpass : h.pass o.delimiter = .closed := by
    simp only [Heredoc.pass, ho, if_true]
  have hgiven : given h o.delimiter = .ok [h.directive] := by
    simp only [given, ho, if_true]
  constructor
  · rw [scan, hgiven]
    rfl
  · exact hpass

/-- What an open heredoc gives. -/
theorem directive_of_open (ho : h.opener = some o) :
    h.directive = o.directive (joinLines h.held.reverse) := by
  simp only [Heredoc.directive, ho, Heredoc.message]

/-- The end of the text gives what the delimiter would give. -/
theorem flush_of_open (ho : h.opener = some o) : h.flush = [h.directive] := by
  simp only [Heredoc.flush, ho]

end Open

/-! ## Lines without openers -/

/-- Lines of which none opens a heredoc are read one by one. -/
theorem scan_of_no_opener {ls : List String} (hread : ∀ l ∈ ls, Line.Readable l)
    (hopens : ∀ l ∈ ls, ∀ o, Line.read l ≠ .ok (.opens o)) :
    Heredoc.closed.after ls = .closed ∧ ∃ ds, scan .closed ls = .ok ds ∧
      ls.map Line.read = ds.map fun d => .ok (.directive d) := by
  induction ls with
  | nil => exact ⟨rfl, [], rfl, rfl⟩
  | cons line rest ih =>
    obtain ⟨hafter, ds, hscan, hmap⟩ := ih
      (fun l hl => hread l (List.mem_cons_of_mem line hl))
      (fun l hl => hopens l (List.mem_cons_of_mem line hl))
    obtain ⟨meaning, hr⟩ := (hread line List.mem_cons_self).read
    cases meaning with
    | opens o => exact absurd hr (hopens line List.mem_cons_self o)
    | directive d =>
      have hpass : Heredoc.closed.pass line = .closed := by
        simp only [Heredoc.pass, Heredoc.closed, hr]
      have hgiven : given .closed line = .ok [d] := by
        simp only [given, Heredoc.closed, hr]
        rfl
      refine ⟨?_, d :: ds, ?_, ?_⟩
      · have hcons : Heredoc.closed.after (line :: rest) = (Heredoc.closed.pass line).after rest :=
          rfl
        rw [hcons, hpass, hafter]
      · rw [scan, hgiven, hpass, Except.bind, hscan]
        rfl
      · rw [List.map_cons, hr, hmap, List.map_cons]

section Cut

variable {ls ls' : List String} {o : Heredoc.Opener}

/-- A text that is cut where no heredoc is open is read in its two parts. -/
theorem parse_of_closed (hlines : ∀ l ∈ ls ++ ls', IsLine l)
    (hread : ∀ l ∈ ls ++ ls', Line.Readable l) (hclosed : (Heredoc.closed.after ls).opener = none) :
    ∃ ds ds', parse ls = .ok ds ∧ parse ls' = .ok ds' ∧ parse (ls ++ ls') = .ok (ds ++ ds') := by
  obtain ⟨hfirst, hsecond⟩ := List.forall_mem_append.mp hlines
  obtain ⟨hread₁, hread₂⟩ := List.forall_mem_append.mp hread
  obtain ⟨ds, hds⟩ := parse_ok hfirst hread₁
  obtain ⟨ds', hds'⟩ := parse_ok hsecond hread₂
  refine ⟨ds, ds', hds, hds', ?_⟩
  rw [parse_append hlines hclosed, hds, Except.bind, hds', Except.map]

/-- A heredoc that is open at the cut and is not ended takes all that follows. -/
theorem parse_of_open (hlines : ∀ l ∈ ls ++ ls', IsLine l) (hread : ∀ l ∈ ls, Line.Readable l)
    (ho : (Heredoc.closed.after ls).opener = some o) (hd : o.delimiter ∉ ls') :
    ∃ ds, parse ls =
        .ok (ds ++ [o.directive (joinLines (Heredoc.closed.after ls).held.reverse)]) ∧
      parse (ls ++ ls') =
        .ok (ds ++ [o.directive (joinLines ((Heredoc.closed.after ls).held.reverse ++ ls'))]) := by
  obtain ⟨ds, hscan⟩ := scan_ok .closed hread
  obtain ⟨hscan', hafter⟩ := scan_of_open ho hd
  refine ⟨ds, ?_, ?_⟩
  · rw [parse_eq (List.forall_mem_append.mp hlines).1, hscan, flush_of_open ho,
      directive_of_open ho, Except.map]
  · rw [parse_eq hlines, scan_append, hscan, Except.bind, hscan', Heredoc.after_append, hafter,
      flush_of_open rfl, directive_of_open rfl, List.reverse_append, List.reverse_reverse]
    simp only [Except.map, List.append_nil]

/-- A heredoc that is open at the cut is over with its delimiter, and what is behind that is read
by itself. -/
theorem parse_of_delimited {inside outside : List String}
    (hlines : ∀ l ∈ ls ++ (inside ++ o.delimiter :: outside), IsLine l)
    (hread : ∀ l ∈ ls ++ (inside ++ o.delimiter :: outside), Line.Readable l)
    (ho : (Heredoc.closed.after ls).opener = some o) (hd : o.delimiter ∉ inside) :
    ∃ ds ds', parse (ls ++ (inside ++ [o.delimiter])) = .ok ds ∧ parse outside = .ok ds' ∧
      parse (ls ++ (inside ++ o.delimiter :: outside)) = .ok (ds ++ ds') := by
  have hsplit : ls ++ (inside ++ o.delimiter :: outside) =
      (ls ++ (inside ++ [o.delimiter])) ++ outside := by
    simp only [List.append_assoc, List.singleton_append]
  have hclosed : (Heredoc.closed.after (ls ++ (inside ++ [o.delimiter]))).opener = none := by
    rw [Heredoc.after_append, Heredoc.after_append, (scan_of_open ho hd).2,
      (scan_delimiter rfl).2]
    rfl
  rw [hsplit] at hlines hread ⊢
  exact parse_of_closed hlines hread hclosed

/-- The delimiter at the end of a text makes no difference. -/
theorem parse_of_delimiter_last (hlines : ∀ l ∈ ls, IsLine l) (hread : ∀ l ∈ ls, Line.Readable l)
    (ho : (Heredoc.closed.after ls).opener = some o) :
    ∃ ds, parse ls = .ok ds ∧ parse (ls ++ [o.delimiter]) = .ok ds := by
  have hdelimited : ∀ l ∈ ls ++ [o.delimiter], IsLine l := by
    refine List.forall_mem_append.mpr ⟨hlines, fun l hl => ?_⟩
    rw [List.mem_singleton.mp hl]
    exact Heredoc.isLine_delimiter ho
  obtain ⟨ds, hscan⟩ := scan_ok .closed hread
  obtain ⟨hscan', hafter⟩ := scan_delimiter ho
  refine ⟨ds ++ [(Heredoc.closed.after ls).directive], ?_, ?_⟩
  · rw [parse_eq hlines, hscan, flush_of_open ho, Except.map]
  · rw [parse_eq hdelimited, scan_append, hscan, Except.bind, hscan', Heredoc.after_append, hafter]
    exact congrArg Except.ok (List.append_nil _)

end Cut

/-- **Lines are read one after the other, and none is lost or counted twice.** Lines that leave no
heredoc open do not matter to those after them. Where they leave one open, its message goes on
until the delimiter, or to the end of the text; after the delimiter nothing of it is left, and the
delimiter at the end of the text makes no difference. Where no line opens a heredoc, every line
gives one directive. -/
theorem parse_compositional {ls ls' : List String} (hlines : ∀ l ∈ ls ++ ls', IsLine l)
    (hread : ∀ l ∈ ls ++ ls', Line.Readable l) :
    ((Heredoc.closed.after ls).opener = none →
      ∃ ds ds', parse ls = .ok ds ∧ parse ls' = .ok ds' ∧ parse (ls ++ ls') = .ok (ds ++ ds')) ∧
    (∀ o, (Heredoc.closed.after ls).opener = some o →
      (o.delimiter ∉ ls' → ∃ ds,
        parse ls =
          .ok (ds ++ [o.directive (joinLines (Heredoc.closed.after ls).held.reverse)]) ∧
        parse (ls ++ ls') =
          .ok (ds ++ [o.directive (joinLines ((Heredoc.closed.after ls).held.reverse ++ ls'))])) ∧
      (∀ inside outside, ls' = inside ++ o.delimiter :: outside → o.delimiter ∉ inside →
        ∃ ds ds', parse (ls ++ (inside ++ [o.delimiter])) = .ok ds ∧ parse outside = .ok ds' ∧
          parse (ls ++ ls') = .ok (ds ++ ds')) ∧
      ∃ ds, parse ls = .ok ds ∧ parse (ls ++ [o.delimiter]) = .ok ds) ∧
    ((∀ l ∈ ls, ∀ o, Line.read l ≠ .ok (.opens o)) →
      ∃ ds, ls.map Line.read = ds.map (fun d => .ok (.directive d)) ∧ parse ls = .ok ds) := by
  obtain ⟨hfirst, -⟩ := List.forall_mem_append.mp hlines
  obtain ⟨hread₁, -⟩ := List.forall_mem_append.mp hread
  refine ⟨fun hclosed => parse_of_closed hlines hread hclosed, fun o ho => ⟨fun hd => ?_, ?_, ?_⟩,
    fun hopens => ?_⟩
  · exact parse_of_open hlines hread₁ ho hd
  · rintro inside outside rfl hd
    exact parse_of_delimited hlines hread ho hd
  · exact parse_of_delimiter_last hfirst hread₁ ho
  · obtain ⟨hafter, ds, hscan, hmap⟩ := scan_of_no_opener hread₁ hopens
    refine ⟨ds, hmap, ?_⟩
    rw [parse_eq hfirst, hscan, hafter, Except.map]
    exact congrArg Except.ok (List.append_nil ds)

/-- A heredoc that is open after two lines and goes on in two more, with a line behind it. -/
theorem parse_compositional_hello :
    let ls := ["hello", "!discord send <<EOF", "a"]
    let ls' := ["b", "EOF", "bye"]
    (∀ l ∈ ls ++ ls', IsLine l) ∧ (∀ l ∈ ls ++ ls', Line.Readable l) ∧
      ∃ ds ds', parse (ls ++ (["b"] ++ ["EOF"])) = .ok ds ∧ parse ["bye"] = .ok ds' ∧
        parse (ls ++ ls') = .ok (ds ++ ds') := by
  intro ls ls'
  have hlines : ∀ l ∈ ls ++ ls', IsLine l := by
    unfold IsLine
    decide
  have hcommands : ∀ l ∈ ls ++ ls',
      Command.ofLine? l = none ∨ Command.ofLine? l = some (.send "<<EOF") := by
    decide
  have hread : ∀ l ∈ ls ++ ls', Line.Readable l := by
    intro l hl arguments hc
    rcases hcommands l hl with h | h <;> rw [h] at hc <;> cases hc
  have hopen : (Heredoc.closed.after ls).opener = some ⟨"EOF", .send, none⟩ := by
    decide
  exact ⟨hlines, hread,
    ((parse_compositional hlines hread).2.1 _ hopen).2.1 ["b"] ["bye"] rfl (by decide)⟩

end Response

end ChatRelay
