import ChatRelay.Proofs.Legible
import Mathlib.Computability.Language

/-!
# The patterns of commands

Every form of command line is a pattern, that is a set of lines (`Pattern.all`). A recogniser reads
a line if and only if the line matches its pattern (`Pattern.recognises`): where a run of blanks can
be divided in several ways, that the reader takes all it can loses no line.

No line matches two patterns, so that the order in which the recognisers are tried does not matter
(`Command.ofLine?_perm`). The verbs tell the commands apart: none is the start of another one, but
for `send` and `sendto`, and there the blank behind the verb decides.

The main statement is `Line.read_by_patterns`.
-/

namespace ChatRelay

open Reader Text

namespace Pattern

/-! ## What is written -/

/-- One word, as it stands. -/
def word (w : String) : Language Char := {w.toList}

/-- One or more characters of a class. -/
def run (inClass : Char → Bool) : Language Char := {cs | cs ≠ [] ∧ ∀ c ∈ cs, inClass c = true}

/-- One or more blanks. -/
def blanks : Language Char := run isBlank

/-- One or more decimal digits. -/
def digits : Language Char := run isDecimal

/-- One or more characters that are no newline. -/
def argument : Language Char := run (· != '\n')

/-- Any number of characters that are no newline. -/
def anything : Language Char := {cs | '\n' ∉ cs}

/-- `!discord`, a verb, and what follows it. -/
def command (verb : String) (rest : Language Char) : Language Char :=
  word "!discord" * (blanks * (word verb * rest))

/-- `!discord nop` -/
def nop : Language Char := command "nop" 1

/-- `!discord reaction`, a message and an emoji, perhaps with a minus sign. -/
def reaction : Language Char :=
  command "reaction" (blanks * (digits * (blanks * ((1 + word "-") * argument))))

/-- `!discord history`, with anything behind it. -/
def history : Language Char := command "history" anything

/-- A link to a message. -/
def link : Language Char :=
  word "https://discord.com/channels/" * (digits * (word "/" * (digits * (word "/" * digits))))

/-- `!discord delete` and a message, as a link or as its number. -/
def delete : Language Char := command "delete" (blanks * (link + digits))

/-- `!discord exec` and a message. -/
def exec : Language Char := command "exec" (blanks * digits)

/-- `!discord sendto`, a channel and a content. -/
def sendTo : Language Char :=
  command "sendto" (blanks * (run (fun c => !isBlank c) * (blanks * argument)))

/-- `!discord send` and a content. -/
def send : Language Char := command "send" (blanks * argument)

/-- `media:` and a path. -/
def media : Language Char := word "media:" * (blanks * argument)

/-- `reactions:` and emojis. -/
def reactions : Language Char := word "reactions:" * (blanks * argument)

/-- The patterns of all commands, in the order of their recognisers. -/
def all : List (Language Char) :=
  [nop, reaction, history, delete, exec, sendTo, send, media, reactions]

variable {cs : List Char} {L M : Language Char} {inClass : Char → Bool}

/-- The pattern of digits holds the numbers. -/
theorem mem_digits : cs ∈ digits ↔ IsNumber (String.ofList cs) := isNumber_ofList_iff.symm

/-- An argument behind blanks: it is enough that a blank stands first and that it is not alone,
because the argument may start with the other blanks. -/
theorem mem_blanks_argument (hline : '\n' ∉ cs) :
    cs ∈ blanks * argument ↔ ∃ c d rest, cs = c :: d :: rest ∧ isBlank c = true := by
  constructor
  · rintro ⟨gap, ⟨hgap, hblank⟩, content, ⟨hcontent, -⟩, rfl⟩
    obtain ⟨c, gap, rfl⟩ := List.exists_cons_of_ne_nil hgap
    obtain ⟨d, rest, hrest⟩ : ∃ d rest, gap ++ content = d :: rest :=
      List.exists_cons_of_ne_nil (List.append_ne_nil_of_right_ne_nil gap hcontent)
    exact ⟨c, d, rest, congrArg (c :: ·) hrest, hblank c List.mem_cons_self⟩
  · rintro ⟨c, d, rest, rfl, hc⟩
    refine ⟨[c], ⟨List.cons_ne_nil c [], ?_⟩, d :: rest, ⟨List.cons_ne_nil d rest, ?_⟩, rfl⟩
    · rwa [List.forall_mem_singleton]
    · intro a ha
      rw [bne_iff_ne]
      rintro rfl
      exact hline (List.mem_cons_of_mem c ha)

/-- A minus sign before an argument belongs to an argument as well. -/
theorem minus_argument : (1 + word "-") * argument = argument := by
  ext cs
  constructor
  · rintro ⟨sign, hsign, content, ⟨hne, hcontent⟩, rfl⟩
    refine ⟨List.append_ne_nil_of_right_ne_nil sign hne, fun c hc => ?_⟩
    rcases List.mem_append.mp hc with hc | hc
    · rcases hsign with rfl | rfl
      · cases hc
      · rw [List.mem_singleton.mp hc]
        decide
    · exact hcontent c hc
  · intro h
    exact ⟨[], .inl rfl, cs, h, rfl⟩

/-! ## What cannot go on before -/

/-- Nothing of the language is empty or starts with a character of the class, so that a run of the
class ends where the language begins. -/
def Ends (L : Language Char) (inClass : Char → Bool) : Prop :=
  ∀ cs ∈ L, ∃ c rest, cs = c :: rest ∧ inClass c = false

namespace Ends

/-- A word ends a run where its first character is not of the class. -/
theorem word {w : String} {c : Char} {more : List Char} (hw : w.toList = c :: more)
    (hc : inClass c = false) : Ends (word w) inClass := by
  rintro cs rfl
  exact ⟨c, more, hw, hc⟩

/-- A run of another class ends one where the classes have nothing in common. -/
theorem run {other : Char → Bool} (h : ∀ c, other c = true → inClass c = false) :
    Ends (run other) inClass := by
  rintro cs ⟨hne, hcs⟩
  obtain ⟨c, rest, rfl⟩ := List.exists_cons_of_ne_nil hne
  exact ⟨c, rest, rfl, h c (hcs c List.mem_cons_self)⟩

/-- Whatever comes behind it, a language that ends a run goes on to do so. -/
theorem mul (h : Ends L inClass) : Ends (L * M) inClass := by
  rintro cs ⟨first, hfirst, second, -, rfl⟩
  obtain ⟨c, rest, rfl, hc⟩ := h first hfirst
  exact ⟨c, rest ++ second, rfl, hc⟩

/-- Either of two languages ends a run where both do. -/
theorem add (hL : Ends L inClass) (hM : Ends M inClass) : Ends (L + M) inClass := by
  rintro cs (hcs | hcs)
  · exact hL cs hcs
  · exact hM cs hcs

/-- Digits end a run of blanks. -/
theorem digits : Ends digits isBlank := run fun _ => isBlank_of_isDecimal

end Ends

/-! ## What is recognised -/

/-- A reader reads the lines of a language, and no others. -/
def Recognises {α : Type} (read : List Char → Option α) (L : Language Char) : Prop :=
  ∀ cs, '\n' ∉ cs → ((read cs).isSome = true ↔ cs ∈ L)

namespace Recognises

variable {α β : Type} {read : List Char → Option α}

/-- What is made of the result makes no difference to what is recognised. -/
theorem map (h : Recognises read L) (f : List Char → α → β) :
    Recognises (fun cs => (read cs).map (f cs)) L := by
  intro cs hline
  rw [Option.isSome_map]
  exact h cs hline

/-- Two readers that are tried in turn recognise what either of them does. -/
theorem or {read' : List Char → Option α} (h : Recognises read L) (h' : Recognises read' M) :
    Recognises (fun cs => (read cs).or (read' cs)) (L + M) := by
  intro cs hline
  rw [Option.isSome_or, Bool.or_eq_true, h cs hline, h' cs hline]
  rfl

/-- A piece and what is read behind it. The piece that is read has to be the one that the rest of
the language leaves. -/
theorem bind {K : Language Char} {first : List Char → Option β} (left : β → List Char)
    {read : β → Option α}
    (hsplit : ∀ cs b, first cs = some b → ∃ piece ∈ K, piece ++ left b = cs)
    (hjoin : ∀ piece ∈ K, ∀ rest ∈ L, ∃ b, first (piece ++ rest) = some b ∧ left b = rest)
    (h : ∀ b, '\n' ∉ left b → ((read b).isSome = true ↔ left b ∈ L)) :
    Recognises (fun cs => (first cs).bind read) (K * L) := by
  intro cs hline
  constructor
  · intro hsome
    obtain ⟨a, ha⟩ := Option.isSome_iff_exists.mp hsome
    obtain ⟨b, hfirst, hread⟩ := Option.bind_eq_some_iff.mp ha
    obtain ⟨piece, hpiece, rfl⟩ := hsplit cs b hfirst
    have hrest : '\n' ∉ left b := fun hmem => hline (List.mem_append_right _ hmem)
    exact Language.append_mem_mul hpiece ((h b hrest).mp (Option.isSome_of_eq_some hread))
  · rintro ⟨piece, hpiece, rest, hmem, rfl⟩
    obtain ⟨b, hfirst, rfl⟩ := hjoin piece hpiece rest hmem
    have hrest : '\n' ∉ left b := fun hnewline => hline (List.mem_append_right _ hnewline)
    dsimp only
    rw [hfirst, Option.bind_some]
    exact (h b hrest).mpr hmem

/-- A keyword and what is recognised behind it. -/
theorem keyword (w : String) (h : Recognises read L) :
    Recognises (fun cs => (keyword? w cs).bind read) (word w * L) := by
  refine bind id (fun cs rest hkeyword => ⟨w.toList, rfl, (keyword?_split hkeyword).symm⟩) ?_ h
  rintro _ rfl rest -
  exact ⟨rest, keyword?_append w rest, rfl⟩

/-- A run takes all it can, which is right where nothing of its class can follow. -/
theorem run {read : List Char × List Char → Option α}
    (h : ∀ piece, Recognises (fun rest => read (piece, rest)) L) (hends : Ends L inClass) :
    Recognises (fun cs => (run? inClass cs).bind read) (run inClass * L) := by
  refine bind Prod.snd (fun cs b hrun => ⟨b.1, run?_sound hrun, run?_split hrun⟩) ?_
    fun b => h b.1 b.2
  rintro piece ⟨hne, hpiece⟩ rest hmem
  obtain ⟨c, more, rfl, hc⟩ := hends rest hmem
  refine ⟨(piece, c :: more), ?_, rfl⟩
  exact run?_append hne hpiece _ fun first hfirst => Option.some.inj hfirst ▸ hc

/-- A run of blanks and what is recognised behind it, where that ends the run. -/
theorem blanks (h : Recognises read L) (hends : Ends L isBlank) :
    Recognises (fun cs => (blanks? cs).bind read) (blanks * L) := by
  simp only [blanks?_eq_run?, Option.bind_map]
  exact run (fun _ => h) hends

/-- A command with its verb, and what is recognised behind it. -/
theorem verb {verb : String} (hverb : Ends (word verb) isBlank) (h : Recognises read L) :
    Recognises (fun cs => (verb? verb cs).bind read) (command verb L) := by
  simp only [verb?, Option.bind_assoc]
  exact .keyword "!discord" (.blanks (.keyword verb h) hverb.mul)

/-- No reader reads a line if and only if the line is in none of their languages. -/
theorem eq_none_iff {readers : List (List Char → Option α)} {ps : List (Language Char)}
    (h : List.Forall₂ Recognises readers ps) (hline : '\n' ∉ cs) :
    readers.findSome? (fun read => read cs) = none ↔ ∀ p ∈ ps, cs ∉ p := by
  induction h with
  | nil => simp
  | cons hread _ ih =>
    rw [List.findSome?_eq_none_iff] at ih ⊢
    rw [List.forall_mem_cons, List.forall_mem_cons, ih, ← hread cs hline,
      Option.not_isSome_iff_eq_none]

/-- Where one reader reads a line and the others do not, the line is in one language only. -/
theorem pairwise {readers : List (List Char → Option α)} {ps : List (Language Char)}
    (h : List.Forall₂ Recognises readers ps) (hline : '\n' ∉ cs)
    (hapart : readers.Pairwise fun first second => first cs = none ∨ second cs = none) :
    ps.Pairwise fun p q => ¬(cs ∈ p ∧ cs ∈ q) := by
  induction h with
  | nil => exact .nil
  | @cons read p readers ps hread hrest ih =>
    obtain ⟨hfirst, hlater⟩ := List.pairwise_cons.mp hapart
    refine .cons ?_ (ih hlater)
    rintro q hq ⟨hp, hmem⟩
    have hnone : ∀ second ∈ readers, second cs = none := by
      intro second hsecond
      refine (hfirst second hsecond).resolve_left fun hnone => ?_
      rw [← hread cs hline, hnone] at hp
      cases hp
    exact (eq_none_iff hrest hline).mp (List.findSome?_eq_none_iff.mpr hnone) q hq hmem

end Recognises

/-- The rest of a line may be anything. -/
theorem recognises_lineRest? : Recognises lineRest? anything := by
  intro cs hline
  rw [lineRest?_of_isLine hline]
  exact iff_of_true rfl hline

/-- Digits at the end of a line are recognised. -/
theorem recognises_lastDigits? : Recognises lastDigits? digits := by
  intro cs hline
  rw [mem_digits]
  constructor
  · intro hsome
    obtain ⟨digits, hdigits⟩ := Option.isSome_iff_exists.mp hsome
    obtain ⟨hnumber, rfl⟩ := lastDigits?_split hline hdigits
    exact hnumber
  · intro h
    have hlast := h.lastDigits?_toList
    rw [String.toList_ofList] at hlast
    rw [hlast]
    rfl

/-- Blanks alone are an argument behind a blank, as long as there are two of them. -/
theorem blankArgument?_of_two {cs : List Char} (hline : '\n' ∉ cs) (htwo : 2 ≤ cs.length) :
    (blankArgument? cs).isSome = true := by
  have hne : cs ≠ [] := by
    rintro rfl
    exact absurd htwo (by decide)
  have hlast : cs.getLast? = some (cs.getLast hne) := List.getLast?_eq_some_getLast hne
  have hnewline : cs.getLast hne ≠ '\n' := fun h => hline (h ▸ List.getLast_mem hne)
  have hbody : cs.getLast? ≠ some '\n' := by
    rw [hlast]
    exact fun h => hnewline (Option.some.inj h)
  rw [blankArgument?, if_neg hbody, if_neg (Nat.not_lt.mpr htwo), hlast, Option.bind_some,
    if_neg hnewline, Option.isSome_some]

/-- Where other characters than blanks follow, the argument starts with the first of them, and
where only blanks do it is the last one. -/
theorem recognises_argument? : Recognises argument? (blanks * argument) := by
  intro cs hline
  rw [mem_blanks_argument hline]
  cases cs with
  | nil => exact iff_of_false Bool.false_ne_true (by simp)
  | cons c cs =>
    cases hc : isBlank c with
    | false => simp [argument?, blanks?, hc]
    | true =>
      cases cs with
      | nil =>
        have hnewline : c ≠ '\n' := fun h => hline (h ▸ List.mem_cons_self)
        simp [argument?, blanks?, hc, trimStart, blankArgument?, hnewline]
      | cons d rest =>
        refine iff_of_true ?_ ⟨c, d, rest, rfl, hc⟩
        simp only [argument?, blanks?, hc, if_true]
        cases hafter : trimStart (d :: rest) with
        | nil => exact blankArgument?_of_two hline (Nat.le_add_left 2 rest.length)
        | cons e more =>
          have hmore : '\n' ∉ e :: more := by
            intro hmem
            rw [← hafter] at hmem
            exact hline (List.mem_cons_of_mem c ((List.dropWhile_sublist _).mem hmem))
          dsimp only
          rw [lineRest?_of_isLine hmore, Option.isSome_some]

/-- Nothing more is left on the line. -/
theorem recognises_lineEnd {α : Type} (a : α) :
    Recognises (fun cs => if isLineEnd cs then some a else none) 1 := by
  intro cs hline
  rw [Language.mem_one, Option.isSome_ite]
  exact ⟨fun hend => eq_nil_of_isLineEnd hend hline, fun hnil => hnil ▸ rfl⟩

/-- A link ends with the number of its message. -/
theorem recognises_linkedMessage? : Recognises Command.linkedMessage? link := by
  have hslash : Ends (word "/") isDecimal := .word rfl (by decide)
  exact .keyword _ <| .run (fun _ => .keyword _ <| .run (fun _ => .keyword _ recognises_lastDigits?)
    hslash.mul) hslash.mul

/-- Every recogniser reads the lines of its pattern. -/
theorem recognises : List.Forall₂ Recognises Command.recognisers all := by
  have hdigits : Ends (blanks * argument) isDecimal := by
    refine .mul (.run fun c hc => ?_)
    rw [← Bool.not_eq_true]
    intro hdigit
    rw [isBlank_of_isDecimal hdigit] at hc
    cases hc
  have hword : Ends (blanks * argument) fun c => !isBlank c :=
    .mul (.run fun c hc => (Bool.not_eq_false' _).mpr hc)
  have hnop : Recognises Command.nop? nop := .verb (.word rfl (by decide)) (recognises_lineEnd _)
  have hreaction : Recognises Command.reaction? reaction := by
    rw [reaction, minus_argument]
    exact .verb (.word rfl (by decide))
      (.blanks (.run (fun _ => recognises_argument?.map _) hdigits) (.mul .digits))
  have hhistory : Recognises Command.history? history :=
    .verb (.word rfl (by decide)) (recognises_lineRest?.map _)
  have hdelete : Recognises Command.delete? delete :=
    .verb (.word rfl (by decide)) (.blanks
      ((recognises_linkedMessage?.or recognises_lastDigits?).map _)
      (.add (.mul (.word rfl (by decide))) .digits))
  have hexec : Recognises Command.exec? exec :=
    .verb (.word rfl (by decide)) (.blanks (recognises_lastDigits?.map _) .digits)
  have hsendTo : Recognises Command.sendTo? sendTo :=
    .verb (.word rfl (by decide)) (.blanks (.run (fun _ => recognises_argument?.map _) hword)
      (.mul (.run fun c hc => (Bool.not_eq_true' _).mp hc)))
  have hsend : Recognises Command.send? send :=
    .verb (.word rfl (by decide)) (recognises_argument?.map _)
  have hmedia : Recognises Command.media? media := .keyword _ (recognises_argument?.map _)
  have hreactions : Recognises Command.reactions? reactions :=
    .keyword _ (recognises_argument?.map _)
  exact .cons hnop <| .cons hreaction <| .cons hhistory <| .cons hdelete <| .cons hexec <|
    .cons hsendTo <| .cons hsend <| .cons hmedia <| .cons hreactions .nil

end Pattern

/-! ## At most one command -/

namespace Command

/-- Neither of two words is the start of the other one. -/
def Apart (v w : String) : Prop := ¬v.toList <+: w.toList ∧ ¬w.toList <+: v.toList

instance (v w : String) : Decidable (Apart v w) := inferInstanceAs (Decidable (_ ∧ _))

/-- Only one of two words stands at one place. -/
theorem Apart.keyword? {v w : String} (h : Apart v w) (cs : List Char) :
    keyword? v cs = none ∨ keyword? w cs = none := by
  cases hv : Reader.keyword? v cs with
  | none => exact .inl rfl
  | some rest =>
    cases hw : Reader.keyword? w cs with
    | none => exact .inr rfl
    | some rest' =>
      have hfirst : v.toList <+: cs := ⟨rest, (keyword?_split hv).symm⟩
      have hsecond : w.toList <+: cs := ⟨rest', (keyword?_split hw).symm⟩
      rcases List.prefix_or_prefix_of_prefix hfirst hsecond with hprefix | hprefix
      · exact absurd hprefix h.1
      · exact absurd hprefix h.2

/-- Only one of two verbs stands behind `!discord`. -/
theorem Apart.verb? {v w : String} (h : Apart v w) (cs : List Char) :
    verb? v cs = none ∨ verb? w cs = none := by
  unfold Reader.verb?
  cases Reader.keyword? "!discord" cs with
  | none => exact .inl rfl
  | some rest =>
    cases hgap : blanks? rest with
    | none => simp [hgap]
    | some verb => simpa [hgap] using h.keyword? verb

/-- The verb `send` is the start of `sendto`, but no blank stands behind it there. -/
theorem sendTo?_apart_send? (cs : List Char) : sendTo? cs = none ∨ send? cs = none := by
  cases hverb : verb? "sendto" cs with
  | none => exact .inl (by rw [sendTo?, hverb, Option.bind_none])
  | some rest =>
    obtain ⟨behind, hprefix, hverb⟩ := Option.bind_eq_some_iff.mp hverb
    obtain ⟨verb, hgap, hverb⟩ := Option.bind_eq_some_iff.mp hverb
    have hsend : keyword? "send" verb = some ('t' :: 'o' :: rest) := by
      rw [keyword?_split hverb]
      exact keyword?_append "send" _
    have hargument : argument? ('t' :: 'o' :: rest) = none := rfl
    right
    rw [send?, verb?, hprefix, Option.bind_some, hgap, Option.bind_some, hsend, Option.bind_some,
      hargument, Option.map_none]

/-- Only one command is recognised behind `!discord`. -/
theorem verbs_apart (cs : List Char) :
    verbs.Pairwise fun first second => first.2 cs = none ∨ second.2 cs = none := by
  have hverbs : verbs.Pairwise fun first second =>
      Apart first.1 second.1 ∨ first.1 = "sendto" ∧ second.1 = "send" := by
    decide
  refine hverbs.imp_of_mem fun {first second} hfirst hsecond h => ?_
  rcases h with happart | ⟨hsendTo, hsend⟩
  · exact (happart.verb? cs).imp (eq_none_of_verb hfirst) (eq_none_of_verb hsecond)
  · obtain ⟨v, recognise⟩ := first
    obtain ⟨w, recognise'⟩ := second
    obtain rfl : v = "sendto" := hsendTo
    obtain rfl : w = "send" := hsend
    obtain rfl : recognise = sendTo? := by simpa [verbs] using hfirst
    obtain rfl : recognise' = send? := by simpa [verbs] using hsecond
    exact sendTo?_apart_send? cs

/-- The commands that start with a word of their own. -/
def labels : List (String × (List Char → Option Command)) :=
  [("media:", media?), ("reactions:", reactions?)]

/-- Such a command is recognised only behind its word. -/
theorem eq_none_of_label {label : String} {recognise : List Char → Option Command}
    (h : (label, recognise) ∈ labels) {cs : List Char} (hlabel : keyword? label cs = none) :
    recognise cs = none := by
  simp only [labels, List.mem_cons, Prod.mk.injEq, List.not_mem_nil, or_false] at h
  rcases h with ⟨rfl, rfl⟩ | ⟨rfl, rfl⟩
  · rw [media?, hlabel, Option.bind_none]
  · rw [reactions?, hlabel, Option.bind_none]

/-- Only one recogniser reads a line. -/
theorem recognisers_apart (cs : List Char) :
    recognisers.Pairwise fun first second => first cs = none ∨ second cs = none := by
  have hsplit : recognisers = verbs.map (·.2) ++ labels.map (·.2) := rfl
  rw [hsplit, List.pairwise_append]
  refine ⟨List.pairwise_map.mpr (verbs_apart cs), List.pairwise_map.mpr ?_, ?_⟩
  · have hlabels : labels.Pairwise fun first second => Apart first.1 second.1 := by decide
    refine hlabels.imp_of_mem fun hfirst hsecond happart => ?_
    exact (happart.keyword? cs).imp (eq_none_of_label hfirst) (eq_none_of_label hsecond)
  · intro first hfirst second hsecond
    obtain ⟨verb, hverb, rfl⟩ := List.mem_map.mp hfirst
    obtain ⟨label, hlabel, rfl⟩ := List.mem_map.mp hsecond
    have hdiscord : ∀ label ∈ labels, Apart "!discord" label.1 := by decide
    refine ((hdiscord label hlabel).keyword? cs).imp (fun hnone => ?_) (eq_none_of_label hlabel)
    exact eq_none_of_verb hverb (by rw [verb?, hnone, Option.bind_none])

/-- A line is the same command, whatever the order in which the recognisers are tried. -/
theorem ofLine?_perm {order : List (List Char → Option Command)} (h : order.Perm recognisers)
    (line : String) : order.findSome? (fun recognise => recognise line.toList) = ofLine? line := by
  have hperm := h.filterMap fun recognise => recognise line.toList
  have hone : (recognisers.filterMap fun recognise => recognise line.toList).Pairwise
      fun _ _ => False := by
    refine List.pairwise_filterMap.mpr ((recognisers_apart line.toList).imp ?_)
    rintro first second (hnone | hnone) command hfirst command' hsecond
    · cases hnone.symm.trans hfirst
    · cases hnone.symm.trans hsecond
  rw [ofLine?, ← List.head?_filterMap, ← List.head?_filterMap]
  cases hread : recognisers.filterMap fun recognise => recognise line.toList with
  | nil =>
    rw [hread] at hperm
    rw [List.perm_nil.mp hperm]
  | cons command more =>
    have hmore : more = [] := by
      rw [hread, List.pairwise_cons] at hone
      exact List.eq_nil_iff_forall_not_mem.mpr hone.1
    rw [hread, hmore] at hperm
    rw [List.perm_singleton.mp hperm, hmore]

end Command

/-! ## Lines -/

namespace Line

/-- **At most one command matches a line.** Every recogniser reads a line if and only if the line
matches its pattern, and it matches at most one, so that the order of the recognisers does not
matter. A line is exactly one of a directive and the opening of a heredoc, whose delimiter is not
empty, if and only if no number of a history command on it is too long. It is text if and only if it
matches no pattern, and then it stands as it is. -/
theorem read_by_patterns {line : String} (hline : IsLine line) :
    List.Forall₂ (fun recognise p => (recognise line.toList).isSome = true ↔ line.toList ∈ p)
        Command.recognisers Pattern.all ∧
      Pattern.all.Pairwise (fun p q => ¬(line.toList ∈ p ∧ line.toList ∈ q)) ∧
      (∀ order : List (List Char → Option Command), order.Perm Command.recognisers →
        order.findSome? (fun recognise => recognise line.toList) = Command.ofLine? line) ∧
      (Readable line ↔
        Xor (∃ d, read line = .ok (.directive d)) (∃ o, read line = .ok (.opens o))) ∧
      (∀ o, read line = .ok (.opens o) → o.delimiter ≠ "") ∧
      ∀ content, read line = .ok (.directive (.text content)) ↔
        content = line ∧ ∀ p ∈ Pattern.all, line.toList ∉ p := by
  have hread := Pattern.recognises
  refine ⟨hread.imp fun _ _ h => h _ hline, ?_, fun order h => Command.ofLine?_perm h line,
    ⟨fun h => ?_, fun h => ?_⟩, fun o h => ?_, fun content => ?_⟩
  · exact Pattern.Recognises.pairwise hread hline (Command.recognisers_apart _)
  · obtain ⟨meaning, hmeaning⟩ := h.read
    cases meaning with
    | directive d => exact .inl ⟨⟨d, hmeaning⟩, fun ⟨o, ho⟩ => by cases hmeaning.symm.trans ho⟩
    | opens o => exact .inr ⟨⟨o, hmeaning⟩, fun ⟨d, hd⟩ => by cases hmeaning.symm.trans hd⟩
  · rcases h with ⟨⟨d, hd⟩, -⟩ | ⟨⟨o, ho⟩, -⟩
    · exact readable_of_read hd
    · exact readable_of_read ho
  · rcases read_eq_ok_iff.mp h with ⟨-, htext⟩ | ⟨command, -, hmeans⟩
    · cases htext
    · cases hmeans with
      | opensTo opening | opens opening => exact Reference.delimiter?_ne_empty opening
  · have htext : (∃ command, Command.ofLine? line = some command ∧
        command.Means (.directive (.text content))) ↔ False :=
      iff_false_intro fun ⟨command, _, hmeans⟩ => by cases hmeans
    rw [read_eq_ok_iff, htext, or_false, Line.directive.injEq, Directive.text.injEq, and_comm,
      Command.ofLine?, Pattern.Recognises.eq_none_iff hread hline]

/-- A line that opens a heredoc matches its pattern only. -/
theorem read_by_patterns_sendTo : IsLine "!discord sendto #a <<END" ∧
    Pattern.all.Pairwise (fun p q => ¬("!discord sendto #a <<END".toList ∈ p ∧
      "!discord sendto #a <<END".toList ∈ q)) ∧
    Xor (∃ d, read "!discord sendto #a <<END" = .ok (.directive d))
      (∃ o, read "!discord sendto #a <<END" = .ok (.opens o)) ∧ "END" ≠ "" := by
  have hline : IsLine "!discord sendto #a <<END" := by decide
  have hread : read "!discord sendto #a <<END" = .ok (.opens ⟨"END", .sendTo, some "a"⟩) := by
    decide
  obtain ⟨-, hapart, -, hone, hdelimiter, -⟩ := read_by_patterns hline
  exact ⟨hline, hapart, hone.mp (readable_of_read hread), hdelimiter _ hread⟩

/-- Not every line is a directive or the opening of a heredoc: a history command with a number that
has one digit too many is neither. -/
theorem not_exactly_one_longNumber : IsLine ("!discord history " ++ Response.longNumber) ∧
    ¬Xor (∃ d, read ("!discord history " ++ Response.longNumber) = .ok (.directive d))
      (∃ o, read ("!discord history " ++ Response.longNumber) = .ok (.opens o)) := by
  have hrefused := read_of_long Response.isNumber_longNumber
    (Response.longNumber_length ▸ Nat.lt_succ_self _)
  refine ⟨isLine_append.mpr ⟨by decide, Response.isNumber_longNumber.isLine⟩, fun h => ?_⟩
  rcases h with ⟨⟨d, hd⟩, -⟩ | ⟨⟨o, ho⟩, -⟩
  · cases hrefused.symm.trans hd
  · cases hrefused.symm.trans ho

end Line

end ChatRelay
