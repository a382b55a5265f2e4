import ChatRelay.Proofs.Patterns
import ChatRelay.Proofs.Posting
import Mathlib.Data.List.Pairwise

/-!
# Commands whose argument is blank

The argument of a command is never empty, but it may be a blank: where nothing but blanks is left of
the line, the last of them is the argument (`Reader.argument?_eq_some_iff`). A path and an emoji are
trimmed after that, and so nothing is left of such an argument. `Pattern.bareMedia` and
`Pattern.bareReaction` are the lines that this happens to: two blanks or more stand where the
argument should, or a minus sign with blanks on both sides.

A file without a path takes with it the output that it is posted with (`Outbox.lost_of_refused`).

The main statement is `Response.bare_directives_iff`.
-/

namespace ChatRelay

open Dialogue (Event)
open Reader Text

/-! ## Arguments -/

/-- Nothing is left of a text when it is trimmed if and only if it holds nothing but blanks. -/
theorem Text.trim_eq_nil_iff {cs : List Char} : trim cs = [] ↔ cs.all isBlank = true := by
  have hend : trim cs = [] ↔ ∀ c ∈ trimStart cs, isBlank c = true := by
    simp only [trim, trimEnd, List.reverse_eq_nil_iff, List.dropWhile_eq_nil_iff,
      List.mem_reverse]
  rw [hend, List.all_eq_true]
  constructor
  · intro hall
    have hstart : trimStart cs = [] := by
      cases hrest : trimStart cs with
      | nil => rfl
      | cons c rest =>
        have hfirst := List.head?_dropWhile_not isBlank cs
        rw [← trimStart, hrest] at hfirst
        have hblank : isBlank c = true := hall c (hrest ▸ List.mem_cons_self)
        rw [List.head?_cons] at hfirst
        exact absurd (hblank.symm.trans hfirst) (by decide)
    exact List.dropWhile_eq_nil_iff.mp hstart
  · intro hall c hc
    exact hall c ((List.dropWhile_sublist _).mem hc)

/-- Nothing is left of a text without its outer blanks where all of it is blank. -/
theorem Line.trimmed_eq_empty_iff {s : String} : trimmed s = "" ↔ s.toList.all isBlank = true := by
  rw [trimmed, String.ofList_eq_empty_iff, trim_eq_nil_iff]

namespace Reader

/-- The argument of blanks is the last of them, where another one stands before it. -/
theorem blankArgument?_concat {gap : List Char} {c : Char} (hline : '\n' ∉ gap ++ [c]) :
    blankArgument? (gap ++ [c]) = if gap = [] then none else some [c] := by
  have hlast : (gap ++ [c]).getLast? = some c := List.getLast?_concat
  have hnewline : c ≠ '\n' := by
    rintro rfl
    exact hline (List.mem_append_right _ (List.mem_singleton.mpr rfl))
  have hbody : (gap ++ [c]).getLast? ≠ some '\n' := by
    rw [hlast]
    exact fun h => hnewline (Option.some.inj h)
  have hshort : (gap ++ [c]).length < 2 ↔ gap = [] := by
    rw [List.length_append, List.length_singleton, ← List.length_eq_zero_iff]
    omega
  rw [blankArgument?, if_neg hbody, hlast, Option.bind_some, if_neg hnewline]
  simp only [hshort]

/-- Where only blanks are left, the argument is one of them. -/
theorem argument?_of_blank {cs : List Char} (hne : cs ≠ []) (hblank : ∀ c ∈ cs, isBlank c = true) :
    argument? cs = blankArgument? cs := by
  obtain ⟨c, rest, rfl⟩ := List.exists_cons_of_ne_nil hne
  obtain ⟨hc, hrest⟩ := List.forall_mem_cons.mp hblank
  have hafter : trimStart rest = [] := List.dropWhile_eq_nil_iff.mpr hrest
  simp only [argument?, blanks?, hc, if_true, hafter]

/-- Behind blanks an argument starts with the first character that is none. -/
theorem argument?_of_run {gap rest : List Char} {c : Char} (hne : gap ≠ [])
    (hblank : ∀ b ∈ gap, isBlank b = true) (hc : isBlank c = false) (hline : '\n' ∉ c :: rest) :
    argument? (gap ++ c :: rest) = some (c :: rest) := by
  have hrun : run? isBlank (gap ++ c :: rest) = some (gap, c :: rest) :=
    run?_append hne hblank _ fun first hfirst => Option.some.inj hfirst ▸ hc
  have hblanks : blanks? (gap ++ c :: rest) = some (c :: rest) := by
    rw [blanks?_eq_run?, hrun, Option.map_some]
  simp only [argument?, hblanks, lineRest?_of_isLine hline]

/-- One or more blanks stand before the argument of a line, and it goes to the end of the line; it
starts with no blank, unless it is a blank and nothing more. -/
theorem argument?_eq_some_iff {cs argument : List Char} (hline : '\n' ∉ cs) :
    argument? cs = some argument ↔ ∃ gap c rest, gap ≠ [] ∧ (∀ b ∈ gap, isBlank b = true) ∧
      argument = c :: rest ∧ (isBlank c = true → rest = []) ∧ cs = gap ++ argument := by
  have hsplit : cs.takeWhile isBlank ++ cs.dropWhile isBlank = cs :=
    List.takeWhile_append_dropWhile
  have hgap : ∀ b ∈ cs.takeWhile isBlank, isBlank b = true := fun b hb =>
    List.all_eq_true.mp List.all_takeWhile b hb
  constructor
  · intro h
    have hne : cs.takeWhile isBlank ≠ [] := by
      intro hnone
      have hblanks : blanks? cs = none := by
        rw [blanks?_eq_run?, run?, hnone]
        rfl
      rw [argument?, hblanks] at h
      cases h
    cases hrest : cs.dropWhile isBlank with
    | cons c rest =>
      rw [hrest] at hsplit
      have hc : isBlank c = false := by
        have hfirst := List.head?_dropWhile_not isBlank cs
        rwa [hrest] at hfirst
      have hmore : '\n' ∉ c :: rest := fun hmem => hline (hsplit ▸ List.mem_append_right _ hmem)
      rw [← hsplit, argument?_of_run hne hgap hc hmore] at h
      cases h
      exact ⟨_, c, rest, hne, hgap, rfl, fun hblank => by simp [hc] at hblank, hsplit.symm⟩
    | nil =>
      have hall : ∀ b ∈ cs, isBlank b = true := List.dropWhile_eq_nil_iff.mp hrest
      -- Where all is blank, the last blank is left for the argument.
      rcases List.eq_nil_or_concat' cs with rfl | ⟨gap, c, rfl⟩
      · exact absurd rfl hne
      · rw [argument?_of_blank (by simp) hall, blankArgument?_concat hline] at h
        split at h
        · cases h
        · rename_i hgap
          cases h
          exact ⟨gap, c, [], hgap, fun b hb => hall b (List.mem_append_left _ hb), rfl,
            fun _ => rfl, rfl⟩
  · rintro ⟨gap, c, rest, hne, hblank, rfl, hlast, rfl⟩
    cases hc : isBlank c with
    | false =>
      exact argument?_of_run hne hblank hc fun hmem => hline (List.mem_append_right _ hmem)
    | true =>
      obtain rfl := hlast hc
      have hall : ∀ b ∈ gap ++ [c], isBlank b = true :=
        List.forall_mem_append.mpr ⟨hblank, List.forall_mem_singleton.mpr hc⟩
      rw [argument?_of_blank (by simp) hall, blankArgument?_concat hline, if_neg hne]

end Reader

/-! ## Lines -/

/-- A command with an argument of which trimming leaves nothing. -/
def Command.isBare : Command → Bool
  | .media path => path.toList.all isBlank
  | .reaction _ _ emoji => emoji.toList.all isBlank
  | _ => false

namespace Pattern

/-- `media:` and two or more blanks. -/
def bareMedia : Language Char := word "media:" * (blanks * blanks)

/-- `!discord reaction`, a message, and blanks, two or more of them; among them there may be a minus
sign with blanks on both sides. -/
def bareReaction : Language Char :=
  command "reaction" (blanks * (digits * (blanks * ((1 + word "-") * blanks))))

/-- Blanks are the argument of a line, in part, where there are two of them. -/
theorem argument?_of_blanks {gap more : List Char} (hgap : gap ∈ blanks) (hmore : more ∈ blanks)
    (hline : '\n' ∉ gap ++ more) : ∃ c, isBlank c = true ∧ argument? (gap ++ more) = some [c] := by
  obtain ⟨hne, hblank⟩ := hgap
  obtain ⟨hne', hblank'⟩ := hmore
  obtain ⟨init, c, rfl⟩ := (List.eq_nil_or_concat' more).resolve_left hne'
  obtain ⟨hinit, hc⟩ := List.forall_mem_append.mp hblank'
  have hbefore : ∀ b ∈ gap ++ init, isBlank b = true := List.forall_mem_append.mpr ⟨hblank, hinit⟩
  refine ⟨c, hc c (List.mem_singleton.mpr rfl), (argument?_eq_some_iff hline).mpr ?_⟩
  exact ⟨gap ++ init, c, [], List.append_ne_nil_of_left_ne_nil hne init, hbefore, rfl,
    fun _ => rfl, (List.append_assoc _ _ _).symm⟩

/-- The argument of a line is blank where two blanks or more are left of it. -/
theorem recognises_blankArgument :
    Recognises (fun cs => (argument? cs).filter (·.all isBlank)) (blanks * blanks) := by
  intro cs hline
  rw [Option.isSome_filter, Option.any_eq_true]
  constructor
  · rintro ⟨argument, hargument, hblank⟩
    obtain ⟨gap, c, rest, hne, hgap, rfl, -, rfl⟩ := (argument?_eq_some_iff hline).mp hargument
    exact ⟨gap, ⟨hne, hgap⟩, _, ⟨List.cons_ne_nil c rest, List.all_eq_true.mp hblank⟩, rfl⟩
  · rintro ⟨gap, hgap, more, hmore, rfl⟩
    obtain ⟨c, hc, hargument⟩ := argument?_of_blanks hgap hmore hline
    refine ⟨[c], hargument, ?_⟩
    rw [List.all_cons, hc, List.all_nil, Bool.and_true]

/-- The emoji of a line is blank where blanks are left of it behind its minus sign, or else two
blanks or more. -/
theorem recognises_blankEmoji :
    Recognises (fun cs => (argument? cs).filter fun a => (Command.splitMinus a).2.all isBlank)
      (blanks * ((1 + word "-") * blanks)) := by
  intro cs hline
  rw [Option.isSome_filter, Option.any_eq_true]
  constructor
  · rintro ⟨argument, hargument, hblank⟩
    obtain ⟨gap, c, rest, hne, hgap, rfl, -, rfl⟩ := (argument?_eq_some_iff hline).mp hargument
    refine ⟨gap, ⟨hne, hgap⟩, c :: rest, ?_, rfl⟩
    unfold Command.splitMinus at hblank
    split at hblank
    · rename_i d more hminus
      cases hminus
      exact ⟨['-'], .inr rfl, d :: more, ⟨List.cons_ne_nil d more, List.all_eq_true.mp hblank⟩, rfl⟩
    · exact ⟨[], .inl rfl, c :: rest, ⟨List.cons_ne_nil c rest, List.all_eq_true.mp hblank⟩, rfl⟩
  · rintro ⟨gap, hgap, _, ⟨sign, hsign, more, hmore, rfl⟩, rfl⟩
    rcases hsign with rfl | rfl
    · obtain ⟨c, hc, hargument⟩ := argument?_of_blanks hgap hmore hline
      refine ⟨[c], hargument, ?_⟩
      unfold Command.splitMinus
      split
      · rename_i hminus
        cases hminus
      · rw [List.all_cons, hc, List.all_nil, Bool.and_true]
    · obtain ⟨hne, hblank⟩ := hmore
      obtain ⟨d, rest, rfl⟩ := List.exists_cons_of_ne_nil hne
      refine ⟨'-' :: d :: rest, (argument?_eq_some_iff hline).mpr ?_, List.all_eq_true.mpr hblank⟩
      exact ⟨gap, '-', d :: rest, hgap.1, hgap.2, rfl, fun h => absurd h (by decide), rfl⟩

/-- What is read behind a piece may be filtered where it is read. -/
theorem filter_bind_eq {α β : Type} (first : Option α) (read : α → Option β) (p : β → Bool) :
    (first.bind read).filter p = first.bind fun a => (read a).filter p := by
  cases first <;> rfl

/-- A line names a file without a path where it matches the pattern. -/
theorem recognises_bareMedia :
    Recognises (fun cs => (Command.media? cs).filter Command.isBare) bareMedia := by
  have hfilter : (fun cs => (Command.media? cs).filter Command.isBare) = fun cs =>
      (keyword? "media:" cs).bind fun rest => ((argument? rest).filter (·.all isBlank)).map
        fun path => Command.media (String.ofList path) := by
    funext cs
    simp only [Command.media?, filter_bind_eq, Option.filter_map, Function.comp_def,
      Command.isBare, String.toList_ofList]
  rw [hfilter]
  exact .keyword "media:" (recognises_blankArgument.map _)

/-- A line reacts without an emoji where it matches the pattern. -/
theorem recognises_bareReaction :
    Recognises (fun cs => (Command.reaction? cs).filter Command.isBare) bareReaction := by
  have hfilter : (fun cs => (Command.reaction? cs).filter Command.isBare) = fun cs =>
      (verb? "reaction" cs).bind fun rest => (blanks? rest).bind fun rest =>
        (digits? rest).bind fun read => ((argument? read.2).filter fun a =>
          (Command.splitMinus a).2.all isBlank).map fun argument =>
            Command.reaction (String.ofList read.1) (Command.splitMinus argument).1
              (String.ofList (Command.splitMinus argument).2) := by
    funext cs
    simp only [Command.reaction?, filter_bind_eq, Option.filter_map, Function.comp_def,
      Command.isBare, String.toList_ofList]
  have hends : Ends (blanks * ((1 + word "-") * blanks)) isDecimal :=
    .mul (.run fun _ hblank => Bool.eq_false_iff.mpr fun hdigit => by
      simp [isBlank_of_isDecimal hdigit] at hblank)
  rw [hfilter]
  exact .verb (.word rfl (by decide))
    (.blanks (.run (fun _ => recognises_blankEmoji.map _) hends) (.mul .digits))

end Pattern

/-- The command that a recogniser reads is the command that the line is. -/
theorem Command.ofLine?_of_mem {recognise : List Char → Option Command}
    (hmem : recognise ∈ recognisers) {line : String} {command : Command}
    (h : recognise line.toList = some command) : ofLine? line = some command := by
  cases hread : ofLine? line with
  | none =>
    have hnone := List.findSome?_eq_none_iff.mp hread recognise hmem
    cases h.symm.trans hnone
  | some command' =>
    obtain ⟨recognise', hmem', h'⟩ := List.exists_of_findSome?_eq_some hread
    by_cases hsame : recognise' = recognise
    · rw [← h', hsame, h]
    · have : Std.Symm fun first second : List Char → Option Command =>
          first line.toList = none ∨ second line.toList = none := ⟨fun _ _ => Or.symm⟩
      rcases (recognisers_apart line.toList).forall hmem' hmem hsame with hnone | hnone
      · cases h'.symm.trans hnone
      · cases h.symm.trans hnone

namespace Line

variable {line : String}

/-- A line with a file is one whose path is trimmed. -/
theorem read_media_iff {path : String} : read line = .ok (.directive (.media path)) ↔
    ∃ written, Command.media? line.toList = some (.media written) ∧ trimmed written = path := by
  rw [read_eq_ok_iff]
  constructor
  · rintro (⟨-, htext⟩ | ⟨command, hcommand, hmeans⟩)
    · cases htext
    · cases hmeans
      exact ⟨_, Command.recogniser_of_ofLine? hcommand, rfl⟩
  · rintro ⟨written, hread, rfl⟩
    have hmem : Command.media? ∈ Command.recognisers := by simp [Command.recognisers]
    exact .inr ⟨.media written, Command.ofLine?_of_mem hmem hread, .media⟩

/-- A line that reacts to a message is one whose emoji is trimmed. -/
theorem read_reaction_iff {id emoji : String} {remove : Bool} :
    read line = .ok (.directive (.reaction id emoji remove)) ↔ ∃ written,
      Command.reaction? line.toList = some (.reaction id remove written) ∧
        trimmed written = emoji := by
  rw [read_eq_ok_iff]
  constructor
  · rintro (⟨-, htext⟩ | ⟨command, hcommand, hmeans⟩)
    · cases htext
    · cases hmeans
      exact ⟨_, Command.recogniser_of_ofLine? hcommand, rfl⟩
  · rintro ⟨written, hread, rfl⟩
    have hmem : Command.reaction? ∈ Command.recognisers := by simp [Command.recognisers]
    exact .inr ⟨.reaction id remove written, Command.ofLine?_of_mem hmem hread, .reaction⟩

/-- A line names a file without a path if and only if nothing but blanks stands behind `media:`, two
or more of them. -/
theorem read_bareMedia_iff (hline : IsLine line) :
    read line = .ok (.directive (.media "")) ↔ line.toList ∈ Pattern.bareMedia := by
  rw [← Pattern.recognises_bareMedia _ hline, Option.isSome_filter, Option.any_eq_true,
    read_media_iff]
  constructor
  · rintro ⟨written, hread, hempty⟩
    exact ⟨.media written, hread, trimmed_eq_empty_iff.mp hempty⟩
  · rintro ⟨command, hread, hbare⟩
    obtain ⟨rest, -, hargument⟩ := Option.bind_eq_some_iff.mp hread
    obtain ⟨path, -, rfl⟩ := Option.map_eq_some_iff.mp hargument
    exact ⟨_, hread, trimmed_eq_empty_iff.mpr hbare⟩

/-- A line reacts to a message without an emoji if and only if it matches the pattern. -/
theorem read_bareReaction_iff (hline : IsLine line) :
    (∃ id remove, read line = .ok (.directive (.reaction id "" remove))) ↔
      line.toList ∈ Pattern.bareReaction := by
  rw [← Pattern.recognises_bareReaction _ hline, Option.isSome_filter, Option.any_eq_true]
  simp only [read_reaction_iff]
  constructor
  · rintro ⟨id, remove, written, hread, hempty⟩
    exact ⟨.reaction id remove written, hread, trimmed_eq_empty_iff.mp hempty⟩
  · rintro ⟨command, hread, hbare⟩
    obtain ⟨verb, -, hread'⟩ := Option.bind_eq_some_iff.mp hread
    obtain ⟨rest, -, hread'⟩ := Option.bind_eq_some_iff.mp hread'
    obtain ⟨digits, -, hargument⟩ := Option.bind_eq_some_iff.mp hread'
    obtain ⟨argument, -, rfl⟩ := Option.map_eq_some_iff.mp hargument
    exact ⟨_, _, _, hread, trimmed_eq_empty_iff.mpr hbare⟩

end Line

/-! ## Output with a file that is refused -/

/-- Where files are held back, the first message carries them all. -/
theorem Pending.Makes.first {p : Pending} {ms : List (String × List String)} (h : p.Makes ms)
    (hfiles : p.files ≠ []) : ∃ content rest, ms = (content, p.files) :: rest := by
  cases hblank : Text.allBlank p.text with
  | true => exact ⟨"", [], h.alone hblank hfiles⟩
  | false =>
    have hattached := h.attached hblank
    cases ms with
    | nil => cases hattached
    | cons m rest =>
      have hfirst : m.2 = p.files := (List.cons.inj hattached).1
      exact ⟨m.1, rest, by rw [← hfirst]⟩

/-- Where the first message is refused, nothing else is tried. -/
theorem Delivery.Delivers.refused {x : Delivery} {p : Pending} {ms : List (String × List String)}
    (h : x.Delivers p ms) {m : String × List String} {rest : List (String × List String)}
    (hms : ms = m :: rest) (hrefused : ∀ reply, (m, reply) ∈ x.sends → ∃ e, reply = .error e) :
    ∃ e, x.sends = [(m, .error e)] ∧ x.reactions = [] := by
  have hlength : 0 < ms.length := hms ▸ Nat.succ_pos rest.length
  have hsome : 0 < x.sends.length := (h.tried.attempted 0 hlength).mpr nofun
  obtain ⟨⟨m', reply⟩, more, hsends⟩ := List.exists_cons_of_length_pos hsome
  have hfirst : m' = m := by
    have hprefix := h.tried.inOrder
    rw [hms, hsends, List.map_cons] at hprefix
    exact (List.cons_prefix_cons.mp hprefix).1
  subst hfirst
  obtain ⟨e, rfl⟩ := hrefused reply (hsends ▸ List.mem_cons_self)
  have hmore : more = [] := by
    by_contra hne
    have hsecond : 1 < x.sends.length := by
      rw [hsends, List.length_cons]
      exact Nat.succ_lt_succ (List.length_pos_iff.mpr hne)
    have hbound : 1 < ms.length :=
      Nat.lt_of_lt_of_le hsecond (List.length_map (f := Prod.fst) ▸ h.tried.inOrder.length_le)
    obtain ⟨_, _, haccepted⟩ := (h.tried.attempted 1 hbound).mp hsecond 0 Nat.zero_lt_one
    rw [hsends] at haccepted
    cases haccepted
  subst hmore
  refine ⟨e, hsends, h.unreacted fun id => Delivery.not_arrived (e := e) (m := m') ?_⟩
  exact hsends ▸ List.mem_cons_self

/-- A file that is refused takes with it all that is held back: where the chat platform accepts no
message with this file, one message is tried, with the start of the text and with all files, and
after that no other message and no emoji. -/
theorem Outbox.lost_of_refused {place : Place} {p : Pending} {os : List (Event Chat.service)}
    {path : String} (hfile : path ∈ p.files) (hplays : (flush place p).Plays os ())
    (hrefused : ∀ channel content files reply, path ∈ files →
      .asked (.send channel content files) reply ∈ os → ∃ e, reply = .error e) :
    ∃ content e, os.filter Event.isAsked =
      [.asked (.send place.outputChannelId content p.files) (.error e)] := by
  obtain ⟨x, ms, hdelivers, hcalls⟩ := posted_of_plays hplays
  obtain ⟨content, rest, hms⟩ := hdelivers.makes.first (List.ne_nil_of_mem hfile)
  have hsends : ∀ reply, ((content, p.files), reply) ∈ x.sends → ∃ e, reply = .error e := by
    intro reply hreply
    refine hrefused place.outputChannelId content p.files reply hfile ?_
    have hcall : .asked (.send place.outputChannelId content p.files) reply ∈
        os.filter Event.isAsked := by
      rw [hcalls]
      exact List.mem_append_left _ (List.mem_map.mpr ⟨_, hreply, rfl⟩)
    exact (List.mem_filter.mp hcall).1
  obtain ⟨e, hsent, hnone⟩ := hdelivers.refused hms hsends
  refine ⟨content, e, ?_⟩
  rw [hcalls, Delivery.calls, hsent, hnone]
  rfl

/-! ## Texts -/

namespace Response

/-- A line of a text that is not held by a heredoc. -/
def Heeds (text line : String) : Prop :=
  ∃ before after, splitLines text = before ++ line :: after ∧
    (Heredoc.closed.after before).opener = none

/-- A directive that no heredoc gives is one of a text if and only if it is the meaning of a line
that no heredoc holds. -/
theorem mem_directives_iff {text : String} {ds : List Directive}
    (hread : (read text).directives = .ok ds) {d : Directive}
    (hown : ∀ h : Heredoc, h.directive ≠ d) :
    d ∈ ds ↔ ∃ line, Heeds text line ∧ Line.read line = .ok (.directive d) := by
  constructor
  · intro hd
    obtain ⟨before, line, after, hsplit, hclosed, hline⟩ := line_of_directive hread hd hown
    exact ⟨line, ⟨before, after, hsplit, hclosed⟩, hline⟩
  · rintro ⟨line, ⟨before, after, hsplit, hclosed⟩, hline⟩
    rw [read, hsplit] at hread
    exact directive_of_line hread hclosed hline

/-- A line that is heeded is one line. -/
theorem Heeds.isLine {text line : String} (h : Heeds text line) : IsLine line := by
  obtain ⟨before, after, hsplit, -⟩ := h
  exact isLine_of_mem_splitLines (hsplit ▸ List.mem_append_right _ List.mem_cons_self)

/-- **A directive names nothing just where blanks stand for its argument.** A text has a file
without a path if and only if one of its lines outside all heredocs is `media:` with nothing but
blanks behind it, two or more of them. It has a reaction without an emoji if and only if such a line
has nothing but blanks in the place of the emoji, two or more of them, or blanks on both sides of a
minus sign. Where the chat platform refuses every message with a file without a path, such a file
takes with it all that is held back: one message is tried, and after that no other message and no
emoji. -/
theorem bare_directives_iff {text : String} {ds : List Directive}
    (hread : (read text).directives = .ok ds) :
    (.media "" ∈ ds ↔ ∃ line, Heeds text line ∧ line.toList ∈ Pattern.bareMedia) ∧
    ((∃ id remove, .reaction id "" remove ∈ ds) ↔
      ∃ line, Heeds text line ∧ line.toList ∈ Pattern.bareReaction) ∧
    ∀ place (p : Pending) os, "" ∈ p.files → (Outbox.flush place p).Plays os () →
      (∀ channel content files reply, "" ∈ files →
        .asked (.send channel content files) reply ∈ os → ∃ e, reply = .error e) →
      ∃ content e, os.filter Event.isAsked =
        [.asked (.send place.outputChannelId content p.files) (.error e)] := by
  have hmedia : ∀ h : Heredoc, h.directive ≠ .media "" :=
    directive_ne (fun _ => nofun) fun _ _ => nofun
  have hreaction : ∀ id remove, ∀ h : Heredoc, h.directive ≠ .reaction id "" remove :=
    fun _ _ => directive_ne (fun _ => nofun) fun _ _ => nofun
  refine ⟨?_, ?_, fun place p os hfile hplays hrefused =>
    Outbox.lost_of_refused hfile hplays hrefused⟩
  · rw [mem_directives_iff hread hmedia]
    exact exists_congr fun line => and_congr_right fun h => Line.read_bareMedia_iff h.isLine
  · constructor
    · rintro ⟨id, remove, hmem⟩
      obtain ⟨line, hheeds, hline⟩ := (mem_directives_iff hread (hreaction id remove)).mp hmem
      exact ⟨line, hheeds, (Line.read_bareReaction_iff hheeds.isLine).mp ⟨id, remove, hline⟩⟩
    · rintro ⟨line, hheeds, hline⟩
      obtain ⟨id, remove, hmeans⟩ := (Line.read_bareReaction_iff hheeds.isLine).mpr hline
      have hmem := (mem_directives_iff hread (hreaction id remove)).mpr ⟨line, hheeds, hmeans⟩
      exact ⟨id, remove, hmem⟩

/-- Blanks stand for an emoji behind a minus sign, and for a path; in a heredoc they are a message,
and one blank alone is no argument. -/
theorem bare_directives_iff_mixed :
    let text := "media: \n!discord send <<E\nmedia:  \nE\n!discord reaction 7  - \nmedia:\t "
    let ds : List Directive := [.text "media: ", .send "media:  ", .reaction "7" "" true, .media ""]
    (read text).directives = .ok ds ∧
      (∃ line, Heeds text line ∧ line.toList ∈ Pattern.bareMedia) ∧
      ∃ line, Heeds text line ∧ line.toList ∈ Pattern.bareReaction := by
  intro text ds
  have hread : (read text).directives = .ok ds := by decide +kernel
  obtain ⟨hmedia, hreaction, -⟩ := bare_directives_iff hread
  exact ⟨hread, hmedia.mp (by decide), hreaction.mp ⟨"7", true, by decide⟩⟩

/-- Not every file that is named has a path, and not every reaction has an emoji: two blanks behind
`media:` name a file, and three behind a message are a reaction to it. -/
theorem not_named_blanks : (read "media:  ").directives = .ok [.media ""] ∧
    (read "!discord reaction 12   ").directives = .ok [.reaction "12" "" false] ∧
    ¬∀ text ds, (read text).directives = .ok ds →
      .media "" ∉ ds ∧ ∀ id remove, .reaction id "" remove ∉ ds := by
  have hmedia : (read "media:  ").directives = .ok [.media ""] := by decide +kernel
  have hreaction : (read "!discord reaction 12   ").directives =
      .ok [.reaction "12" "" false] := by decide +kernel
  refine ⟨hmedia, hreaction, fun hall => ?_⟩
  exact (hall "media:  " _ hmedia).1 (List.mem_singleton.mpr rfl)

end Response

end ChatRelay
