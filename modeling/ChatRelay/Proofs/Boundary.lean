import ChatRelay.Text.Cluster
import Mathlib.Data.List.Chain

/-!
# Boundaries between grapheme clusters

The rules of the Unicode text segmentation standard say which two neighbours of a text stay together
(`Text.Cluster.Together`). They look back as far as they need to: past the extending characters
behind a pictograph, and over a whole run of regional indicators.

The cut keeps only a `State` of the cluster that is open. What it keeps is what the rules ask for
(`Reads`), at first of the cluster alone. Where a cluster ends, nothing that stands before matters
for what follows (`Reads.start_eq_push`), so the state of the cluster is the state of the whole
text.

The main statement is `Text.Cluster.isCut_clusters_iff`: a text is cut between two neighbours where
the rules do not keep them together, and nowhere else.
-/

namespace ChatRelay.Text.Cluster

/-! ## The rules -/

/-- A character of this class belongs to the character before it. -/
def Break.IsMark (b : Break) : Prop := b = .extend ∨ b = .joiner ∨ b = .spacing

/-- The characters before a place end in a pictograph with any number of extending characters. The
classes of the characters before a place are listed from the place backwards. -/
def EndsInPictograph (past : List Break) : Prop :=
  (past.dropWhile (· = .extend)).head? = some .pictograph

/-- The number of regional indicators right before a place. -/
def regionals (past : List Break) : Nat := (past.takeWhile (· = .regional)).length

/-- The rules that keep a character together with what stands before it. -/
inductive Together : List Break → Break → Prop where
  | lineEnd (past : List Break) : Together (.carriageReturn :: past) .newline
  | leading (past : List Break) {b : Break} (next : b = .leading ∨ b = .vowel ∨ b = .leadingVowel ∨
      b = .leadingVowelTrailing) : Together (.leading :: past) b
  | vowel (past : List Break) {a b : Break} (last : a = .leadingVowel ∨ a = .vowel)
      (next : b = .vowel ∨ b = .trailing) : Together (a :: past) b
  | trailing (past : List Break) {a : Break} (last : a = .leadingVowelTrailing ∨ a = .trailing) :
      Together (a :: past) .trailing
  | mark (past : List Break) {a b : Break} (last : a.standsApart = false) (next : b.IsMark) :
      Together (a :: past) b
  | prepended (past : List Break) {b : Break} (next : b.standsApart = false) :
      Together (.prepended :: past) b
  | joined {past : List Break} (before : EndsInPictograph past) :
      Together (.joiner :: past) .pictograph
  | flag {past : List Break} (odd : regionals past % 2 = 1) : Together past .regional

/-! ## What the state of a cluster holds -/

/-- The state holds what the rules ask about these characters. -/
structure Reads (s : State) (past : List Break) : Prop where
  last : past.head? = some s.last
  pictograph : s.pictograph = true ↔ EndsInPictograph past
  pictographJoiner : s.pictographJoiner = true ↔
    past.head? = some .joiner ∧ EndsInPictograph past.tail
  oddRegional : s.oddRegional = true ↔ regionals past % 2 = 1

section Reads

variable {s : State} {past : List Break} {b : Break}

/-- A run ends in a pictograph where its last character is one, or is a mark behind a run that
does. -/
theorem endsInPictograph_cons :
    EndsInPictograph (b :: past) ↔ b = .pictograph ∨ (b = .extend ∧ EndsInPictograph past) := by
  by_cases hextend : b = .extend <;> simp [EndsInPictograph, hextend]

/-- The empty run does not end in a pictograph. -/
theorem not_endsInPictograph_nil : ¬EndsInPictograph [] := nofun

/-- Only a regional indicator goes on with the regional indicators at the end of a run. -/
theorem regionals_cons :
    regionals (b :: past) = if b = .regional then regionals past + 1 else 0 := by
  by_cases hregional : b = .regional <;> simp [regionals, hregional]

/-- The state of a cluster of one character holds what the rules ask about it. -/
theorem reads_start (b : Break) : Reads (.start b) [b] where
  last := rfl
  pictograph := by simp [State.start, endsInPictograph_cons, not_endsInPictograph_nil]
  pictographJoiner := by simp [State.start, not_endsInPictograph_nil]
  oddRegional := by
    by_cases hregional : b = .regional <;> simp [State.start, regionals, hregional]

/-- The state keeps holding what the rules ask when a character is added to the cluster. -/
theorem Reads.push (h : Reads s past) (b : Break) : Reads (s.push b) (b :: past) where
  last := rfl
  pictograph := by simp [State.push, endsInPictograph_cons, h.pictograph, and_comm]
  pictographJoiner := by simp [State.push, h.pictograph, and_comm]
  oddRegional := by
    have hodd := h.oddRegional
    by_cases hregional : b = .regional
    · simp only [State.push, regionals_cons, hregional, decide_true, Bool.true_and, if_true,
        Bool.not_eq_true', Bool.eq_false_iff, ne_eq, hodd]
      omega
    · simp [State.push, regionals_cons, hregional]

/-- A run with an odd number of regional indicators at its end has one there. -/
theorem exists_regional_of_odd (h : regionals past % 2 = 1) : ∃ rest, past = .regional :: rest := by
  cases past with
  | nil => cases h
  | cons a rest =>
    rw [regionals_cons] at h
    split at h
    · rename_i hregional
      exact ⟨rest, by rw [hregional]⟩
    · cases h

/-- No mark stands apart. -/
theorem Break.IsMark.not_apart (h : b.IsMark) : b.standsApart = false := by
  rcases h with rfl | rfl | rfl <;> rfl

/-- The rules for the syllables of the Hangul script. -/
theorem together_of_syllable {a : Break} (h : a.syllableGoesOn b = true) :
    Together (a :: past) b := by
  cases a with
  | leading => exact .leading past (by simpa [Break.syllableGoesOn, or_assoc] using h)
  | vowel => exact .vowel past (.inr rfl) (by simpa [Break.syllableGoesOn] using h)
  | leadingVowel => exact .vowel past (.inl rfl) (by simpa [Break.syllableGoesOn] using h)
  | trailing =>
    have hb : b = .trailing := of_decide_eq_true h
    exact hb ▸ .trailing past (.inr rfl)
  | leadingVowelTrailing =>
    have hb : b = .trailing := of_decide_eq_true h
    exact hb ▸ .trailing past (.inl rfl)
  | _ => cases h

/-- Unless one of the two characters stands apart, an open cluster goes on for one of these
reasons. -/
theorem joins_eq (hlast : s.last.standsApart = false) (hb : b.standsApart = false) :
    s.joins b = true ↔ s.last.syllableGoesOn b = true ∨ b.IsMark ∨ s.last = .prepended ∨
      (s.pictographJoiner = true ∧ b = .pictograph) ∨ (s.oddRegional = true ∧ b = .regional) := by
  have hline : ¬(s.last = .carriageReturn && b = .newline) = true := by
    intro h
    simp only [Bool.and_eq_true, decide_eq_true_eq] at h
    rw [h.1] at hlast
    cases hlast
  simp [State.joins, hline, hlast, hb, Break.IsMark, or_assoc]

/-- Where a cluster goes on, a rule says so. -/
theorem Reads.together_of_joins (h : Reads s past) (hjoins : s.joins b = true) :
    Together past b := by
  obtain ⟨rest, rfl⟩ : ∃ rest, past = s.last :: rest := List.head?_eq_some_iff.mp h.last
  by_cases hline : s.last = .carriageReturn ∧ b = .newline
  · rw [hline.1, hline.2]
    exact .lineEnd rest
  by_cases hapart : s.last.standsApart = true ∨ b.standsApart = true
  · exfalso
    rcases hapart with hapart | hapart <;> simp_all [State.joins]
  · obtain ⟨hlast, hb⟩ := not_or.mp hapart
    rw [Bool.not_eq_true] at hlast hb
    rcases (joins_eq hlast hb).mp hjoins with
      hsyllable | hmark | hprepended | ⟨hjoiner, rfl⟩ | ⟨hodd, rfl⟩
    · exact together_of_syllable hsyllable
    · exact .mark rest hlast hmark
    · rw [hprepended]
      exact .prepended rest hb
    · obtain ⟨hlast, hbefore⟩ := h.pictographJoiner.mp hjoiner
      have hlast : s.last = .joiner := Option.some.inj hlast
      rw [hlast]
      exact .joined hbefore
    · exact .flag (h.oddRegional.mp hodd)

/-- Where a rule says so, a cluster goes on. -/
theorem Reads.joins_of_together (h : Reads s past) (htogether : Together past b) :
    s.joins b = true := by
  have hlast : ∀ {a rest}, past = a :: rest → s.last = a := by
    rintro a rest rfl
    exact (Option.some.inj h.last).symm
  cases htogether with
  | lineEnd rest =>
    have hcarriage := hlast rfl
    simp [State.joins, hcarriage]
  | leading rest hnext =>
    have hleading := hlast rfl
    rcases hnext with rfl | rfl | rfl | rfl <;>
      exact (joins_eq (by rw [hleading]; rfl) rfl).mpr (.inl (by rw [hleading]; rfl))
  | vowel rest hvowel hnext =>
    rw [← hlast rfl] at hvowel
    rcases hvowel with hvowel | hvowel <;> rcases hnext with rfl | rfl <;>
      exact (joins_eq (by rw [hvowel]; rfl) rfl).mpr (.inl (by rw [hvowel]; rfl))
  | trailing rest htrailing =>
    rw [← hlast rfl] at htrailing
    rcases htrailing with htrailing | htrailing <;>
      exact (joins_eq (by rw [htrailing]; rfl) rfl).mpr (.inl (by rw [htrailing]; rfl))
  | mark rest happart hmark =>
    rw [← hlast rfl] at happart
    exact (joins_eq happart hmark.not_apart).mpr (.inr (.inl hmark))
  | prepended rest happart =>
    have hprepended := hlast rfl
    exact (joins_eq (by rw [hprepended]; rfl) happart).mpr (.inr (.inr (.inl hprepended)))
  | joined hbefore =>
    have hjoiner := h.pictographJoiner.mpr ⟨rfl, hbefore⟩
    exact (joins_eq (by rw [hlast rfl]; rfl) rfl).mpr (.inr (.inr (.inr (.inl ⟨hjoiner, rfl⟩))))
  | flag hodd =>
    have hregional := h.oddRegional.mpr hodd
    obtain ⟨rest, hpast⟩ := exists_regional_of_odd hodd
    exact (joins_eq (by rw [hlast hpast]; rfl) rfl).mpr
      (.inr (.inr (.inr (.inr ⟨hregional, rfl⟩))))

/-- **The state says what the rules say.** -/
theorem Reads.joins_iff (h : Reads s past) : s.joins b = true ↔ Together past b :=
  ⟨h.together_of_joins, h.joins_of_together⟩

/-- **Nothing before a boundary matters for what follows.** The state of a cluster that begins here
is the state of the whole text. -/
theorem Reads.start_eq_push (h : Reads s past) (hjoins : s.joins b = false) :
    State.start b = s.push b := by
  have happart : ¬Together past b := by
    rw [← h.joins_iff, hjoins]
    exact Bool.false_ne_true
  have hmark : s.pictograph = true → ¬b.IsMark := by
    intro hpictograph hmark
    obtain ⟨rest, rfl⟩ : ∃ rest, past = s.last :: rest := List.head?_eq_some_iff.mp h.last
    have hlast : s.last.standsApart = false := by
      rcases endsInPictograph_cons.mp (h.pictograph.mp hpictograph) with hlast | ⟨hlast, -⟩ <;>
        rw [hlast] <;> rfl
    exact happart (.mark rest hlast hmark)
  have hregional : b = .regional → s.oddRegional = false := by
    rintro rfl
    cases hodd : s.oddRegional with
    | false => rfl
    | true => exact absurd (.flag (h.oddRegional.mp hodd)) happart
  simp only [State.start, State.push, State.mk.injEq, true_and]
  refine ⟨?_, ?_, ?_⟩
  · cases hpictograph : s.pictograph with
    | false => simp
    | true =>
      have hextend : b ≠ .extend := fun hb => hmark hpictograph (.inl hb)
      simp [hextend]
  · cases hpictograph : s.pictograph with
    | false => simp
    | true =>
      have hjoiner : b ≠ .joiner := fun hb => hmark hpictograph (.inr (.inl hb))
      simp [hjoiner]
  · by_cases hb : b = .regional
    · simp [hregional hb]
    · simp [hb]

end Reads

/-! ## Cuts -/

/-- The classes of the characters before a place, the nearest first. -/
def past (before : List Char) : List Break := before.reverse.map .of

/-- One of the cuts between the pieces falls right behind this much of the text. -/
def IsCut (pieces : List (List Char)) (before : List Char) : Prop :=
  ∃ front back, pieces = front ++ back ∧ front.flatten = before

/-- All characters of the text are kept together. -/
def IsCluster (g : List Char) : Prop :=
  g ≠ [] ∧ ∀ before c after, g = before ++ c :: after → before ≠ [] →
    Together (past before) (.of c)

section Cuts

variable {s : State} {held rest before after g : List Char} {c : Char}

/-- The last character comes first in the past. -/
theorem past_concat (before : List Char) (c : Char) :
    past (before ++ [c]) = .of c :: past before := by
  simp [past]

/-- The state of a text goes on with the next character. -/
theorem Reads.concat (h : Reads s (past before)) (c : Char) :
    Reads (s.push (.of c)) (past (before ++ [c])) := by
  rw [past_concat]
  exact h.push (.of c)

/-- The first piece starts with the open cluster. -/
theorem exists_first_cluster (s : State) (held rest : List Char) :
    ∃ more pieces, clustersFrom s held rest = (held.reverse ++ more) :: pieces := by
  induction rest generalizing s held with
  | nil => exact ⟨[], [], by rw [clustersFrom, List.append_nil]⟩
  | cons c rest ih =>
    rw [clustersFrom]
    split
    · obtain ⟨more, pieces, hpieces⟩ := ih (s.push (.of c)) (c :: held)
      have hread : held.reverse ++ c :: more = (c :: held).reverse ++ more := by
        rw [List.reverse_cons, ← List.append_cons]
      exact ⟨c :: more, pieces, by rw [hpieces, hread]⟩
    · exact ⟨[], _, by rw [List.append_nil]⟩

/-- Behind the first piece a text is cut where what is behind that piece is. -/
theorem isCut_cons (hg : g ≠ []) {pieces : List (List Char)} {more : List Char} :
    IsCut (g :: pieces) (g ++ more) ↔ IsCut pieces more := by
  constructor
  · rintro ⟨front, back, hpieces, hflatten⟩
    cases front with
    | nil => exact absurd (List.append_eq_nil_iff.mp hflatten.symm).1 hg
    | cons g' front =>
      obtain ⟨rfl, rfl⟩ := List.cons.inj hpieces
      exact ⟨front, back, rfl, List.append_cancel_left hflatten⟩
  · rintro ⟨front, back, rfl, rfl⟩
    exact ⟨g :: front, back, rfl, rfl⟩

/-- There is no cut inside the first piece. -/
theorem not_isCut_of_first (hg : g ≠ []) {more : List Char} (hmore : more ≠ [])
    {pieces : List (List Char)} : ¬IsCut ((g ++ more) :: pieces) g := by
  rintro ⟨front, back, hpieces, hflatten⟩
  cases front with
  | nil => exact hg hflatten.symm
  | cons g' front =>
    rw [← (List.cons.inj hpieces).1, List.flatten_cons, List.append_assoc] at hflatten
    have hnil : more ++ front.flatten = [] := List.append_right_eq_self.mp hflatten
    exact hmore (List.append_eq_nil_iff.mp hnil).1

/-- The cuts of a text that goes on from an open cluster. Before the place in question stand
`before`, which has been read, and `middle`. -/
theorem isCut_clustersFrom_iff (h : Reads s (past before)) (hheld : held ≠ [])
    (middle : List Char) :
    IsCut (clustersFrom s held (middle ++ c :: after)) (held.reverse ++ middle) ↔
      ¬Together (past (before ++ middle)) (.of c) := by
  have hreverse : held.reverse ≠ [] := mt List.reverse_eq_nil_iff.mp hheld
  induction middle generalizing s held before with
  | nil =>
    rw [List.nil_append, List.append_nil, List.append_nil, ← h.joins_iff, clustersFrom]
    split
    · rename_i hjoins
      obtain ⟨more, pieces, hpieces⟩ := exists_first_cluster (s.push (.of c)) (c :: held) after
      rw [hpieces, List.reverse_cons, List.append_assoc]
      exact iff_of_false (not_isCut_of_first hreverse (List.cons_ne_nil c more))
        (not_not_intro hjoins)
    · rename_i hjoins
      exact iff_of_true ⟨[held.reverse], _, rfl, List.flatten_singleton⟩ hjoins
  | cons d middle ih =>
    have hpush := h.concat d
    rw [List.append_cons before d middle, List.cons_append, clustersFrom]
    split
    · have hread : held.reverse ++ d :: middle = (d :: held).reverse ++ middle := by
        rw [List.reverse_cons, ← List.append_cons]
      rw [hread]
      exact ih hpush (List.cons_ne_nil d held) (by simp)
    · rename_i hjoins
      -- A new cluster starts on the way; its state is again that of the whole text.
      rw [isCut_cons hreverse, h.start_eq_push (Bool.eq_false_iff.mpr hjoins)]
      exact ih hpush (List.cons_ne_nil d []) (by simp)

/-- **A text is cut where the rules do not keep two neighbours together, and nowhere else.** -/
theorem isCut_clusters_iff (hbefore : before ≠ []) :
    IsCut (clusters (before ++ c :: after)) before ↔ ¬Together (past before) (.of c) := by
  cases before with
  | nil => exact absurd rfl hbefore
  | cons b middle =>
    have hread : Reads (.start (.of b)) (past [b]) := reads_start (.of b)
    exact isCut_clustersFrom_iff hread (List.cons_ne_nil b []) middle

/-- A text in front of a boundary is cut by itself. -/
theorem clustersFrom_append (h : Reads s (past before)) (middle : List Char)
    (happart : ¬Together (past (before ++ middle)) (.of c)) :
    clustersFrom s held (middle ++ c :: after) =
      clustersFrom s held middle ++ clusters (c :: after) := by
  induction middle generalizing s held before with
  | nil =>
    rw [List.append_nil, ← h.joins_iff] at happart
    rw [List.nil_append]
    exact if_neg happart
  | cons d middle ih =>
    have hpush := h.concat d
    rw [List.append_cons before d middle] at happart
    rw [List.cons_append, clustersFrom, clustersFrom]
    split
    · exact ih hpush happart
    · rename_i hjoins
      rw [h.start_eq_push (Bool.eq_false_iff.mpr hjoins), ih hpush happart, List.cons_append]

/-- Where a boundary is, a text is cut into the clusters on both sides of it. -/
theorem clusters_append (hbefore : before ≠ []) (happart : ¬Together (past before) (.of c)) :
    clusters (before ++ c :: after) = clusters before ++ clusters (c :: after) := by
  cases before with
  | nil => exact absurd rfl hbefore
  | cons b middle =>
    have hread : Reads (.start (.of b)) (past [b]) := reads_start (.of b)
    exact clustersFrom_append hread middle happart

/-- No cluster is empty. -/
theorem clustersFrom_ne_nil (hheld : held ≠ []) : ∀ g ∈ clustersFrom s held rest, g ≠ [] := by
  have hreverse : ∀ {held : List Char}, held ≠ [] → held.reverse ≠ [] :=
    fun hheld => mt List.reverse_eq_nil_iff.mp hheld
  induction rest generalizing s held with
  | nil =>
    intro g hg
    exact List.mem_singleton.mp hg ▸ hreverse hheld
  | cons c rest ih =>
    rw [clustersFrom]
    split
    · exact ih (List.cons_ne_nil c held)
    · exact List.forall_mem_cons.mpr ⟨hreverse hheld, ih (List.cons_ne_nil c [])⟩

/-- No cluster is empty. -/
theorem clusters_ne_nil (cs : List Char) : ∀ g ∈ clusters cs, g ≠ [] := by
  cases cs with
  | nil => exact nofun
  | cons c rest => exact clustersFrom_ne_nil (List.cons_ne_nil c [])

/-- A cluster is cut into itself alone. -/
theorem IsCluster.clusters_eq (h : IsCluster g) : clusters g = [g] := by
  have hflatten := flatten_clusters g
  have hpieces := clusters_ne_nil g
  cases hclusters : clusters g with
  | nil =>
    rw [hclusters] at hflatten
    exact absurd hflatten.symm h.1
  | cons first others =>
    rw [hclusters] at hflatten hpieces
    cases others with
    | nil => rw [← hflatten, List.flatten_singleton]
    | cons second others =>
      -- The rules would keep the first character of a second cluster together with the first one.
      obtain ⟨c, more, rfl⟩ := List.exists_cons_of_ne_nil (hpieces second (by simp))
      have hsplit : g = first ++ c :: (more ++ others.flatten) := by
        rw [← hflatten]
        simp
      have hfirst : first ≠ [] := hpieces first List.mem_cons_self
      have hcut : IsCut (clusters (first ++ c :: (more ++ others.flatten))) first := by
        rw [← hsplit, hclusters]
        exact ⟨[first], _, rfl, List.flatten_singleton⟩
      exact absurd (h.2 first c _ hsplit hfirst) ((isCut_clusters_iff hfirst).mp hcut)

/-- **A text is one cluster when the rules keep all of it together.** -/
theorem clusters_eq_singleton_iff : clusters g = [g] ↔ IsCluster g := by
  constructor
  · intro h
    refine ⟨fun hg => ?_, fun before c after hsplit hbefore => ?_⟩
    · rw [hg] at h
      cases h
    · subst hsplit
      have huncut : ¬IsCut (clusters (before ++ c :: after)) before := by
        rw [h]
        exact not_isCut_of_first hbefore (List.cons_ne_nil c after)
      rw [isCut_clusters_iff hbefore] at huncut
      exact Classical.not_not.mp huncut
  · exact IsCluster.clusters_eq

/-- One more character that the rules keep together with a cluster. -/
theorem IsCluster.concat (h : IsCluster g) (hnext : Together (past g) (.of c)) :
    IsCluster (g ++ [c]) := by
  refine ⟨by simp, fun before d after hsplit hbefore => ?_⟩
  rcases List.eq_nil_or_concat after with rfl | ⟨after, e, rfl⟩
  · obtain ⟨rfl, hc⟩ := List.append_inj' hsplit rfl
    rwa [← (List.cons.inj hc).1]
  · rw [List.concat_eq_append, ← List.cons_append, ← List.append_assoc] at hsplit
    exact h.2 before d after (List.append_inj' hsplit rfl).1 hbefore

/-- One character is a cluster. -/
theorem isCluster_singleton (c : Char) : IsCluster [c] := by
  refine ⟨List.cons_ne_nil c [], fun before d after hsplit hbefore => ?_⟩
  obtain ⟨b, more, rfl⟩ := List.exists_cons_of_ne_nil hbefore
  have hnil : more ++ d :: after = [] := (List.cons.inj hsplit).2.symm
  exact absurd (List.append_eq_nil_iff.mp hnil).2 (List.cons_ne_nil d after)

/-- **Clusters that the rules keep apart are the clusters of the text that they make up.** -/
theorem clusters_flatten {gs : List (List Char)} (hclusters : ∀ g ∈ gs, IsCluster g)
    (happart : gs.IsChain fun g g' => ∀ c ∈ g'.head?, ¬Together (past g) (.of c)) :
    clusters gs.flatten = gs := by
  induction gs with
  | nil => rfl
  | cons g gs ih =>
    obtain ⟨hg, hclusters⟩ := List.forall_mem_cons.mp hclusters
    cases gs with
    | nil => rw [List.flatten_singleton, hg.clusters_eq]
    | cons g' gs =>
      obtain ⟨hfirst, hrest⟩ := List.isChain_cons_cons.mp happart
      have ih := ih hclusters hrest
      obtain ⟨c, more, rfl⟩ := List.exists_cons_of_ne_nil (hclusters g' List.mem_cons_self).1
      have hsplit : (g :: (c :: more) :: gs).flatten = g ++ c :: (more ++ gs.flatten) := by
        simp
      rw [hsplit, clusters_append hg.1 (hfirst c rfl), hg.clusters_eq]
      exact congrArg (g :: ·) ih

end Cuts

end ChatRelay.Text.Cluster
