import ChatRelay.Emoji
import ChatRelay.Proofs.Boundary
import ChatRelay.Proofs.Lines

/-!
# Lists of emojis

A list of emojis written with single blanks between them is read back as that list
(`Emoji.split_intercalate`). This holds for all clusters that show something and that no blank can
run into: the first character is no mark, which would belong to the blank before it, and the last
one is no character that belongs to the one after it (`Emoji.Standalone`).

Flags, keycaps and pictographs with their skin tones and joiners are of this sort
(`Emoji.IsEmoji.standalone`). They also keep their bounds with nothing between them
(`Emoji.split_flatten`).

The main statement is `Emoji.splitText_roundtrip`.
-/

namespace ChatRelay

open Text Text.Cluster

namespace Text

/-! ## Blanks and break classes -/

/-- A blank is of no class that keeps it together with what follows. -/
theorem class_of_isBlank {c : Char} (h : isBlank c = true) :
    Break.of c = .other ∨ (Break.of c).standsApart = true := by
  obtain ⟨run, hrun, hfirst, hlast⟩ := (Ranges.contains_iff _ _).mp h
  have hmem : c.toNat ∈ blankRanges.flatMap fun run => List.range' run.1 (run.2 + 1 - run.1) :=
    List.mem_flatMap.mpr ⟨run, hrun, List.mem_range'_1.mpr (by omega)⟩
  have hclasses : ∀ n ∈ blankRanges.flatMap fun run => List.range' run.1 (run.2 + 1 - run.1),
      Break.of (Char.ofNat n) = .other ∨ (Break.of (Char.ofNat n)).standsApart = true := by
    decide +kernel
  have hclass := hclasses c.toNat hmem
  rwa [Char.ofNat_toNat] at hclass

/-- No pictograph and no regional indicator is blank. -/
theorem no_blank_of_class {c : Char} (h : Break.of c = .pictograph ∨ Break.of c = .regional) :
    isBlank c = false := by
  rw [Bool.eq_false_iff]
  intro hblank
  rcases h with h | h <;> rcases class_of_isBlank hblank with hclass | hclass <;>
    rw [h] at hclass <;> cases hclass

namespace Cluster

/-! ## Neighbours -/

section Neighbours

variable {classes : List Break} {a b : Break} {g marks : List Char}

/-- The past of one character is its class. -/
theorem past_singleton (c : Char) : past [c] = [.of c] := rfl

/-- The past starts with the class of the last character. -/
theorem head?_past (g : List Char) : (past g).head? = g.getLast?.map .of := by
  rw [past, List.head?_map, List.head?_reverse]

/-- Only a character that belongs to the next one reaches a character of no special class. -/
theorem last_of_together_other (h : Together classes .other) :
    classes.head? = some .prepended := by
  cases h with
  | leading _ hnext => rcases hnext with h | h | h | h <;> cases h
  | vowel _ _ hnext => rcases hnext with h | h <;> cases h
  | mark _ _ hnext => rcases hnext with h | h | h <;> cases h
  | prepended _ _ => rfl

/-- Only a mark is kept together with a character of no special class. -/
theorem isMark_of_together_other (h : Together [.other] b) : b.IsMark := by
  cases h with
  | vowel _ hlast _ => rcases hlast with h | h <;> cases h
  | trailing _ hlast => rcases hlast with h | h <;> cases h
  | mark _ _ hnext => exact hnext
  | flag hodd => cases hodd

/-- What can begin an emoji: a pictograph, a regional indicator, or a character of no special
class. -/
def Break.CanBegin (b : Break) : Prop := b = .pictograph ∨ b = .regional ∨ b = .other

/-- What can begin an emoji is no mark. -/
theorem Break.CanBegin.not_isMark (h : b.CanBegin) : ¬b.IsMark := by
  rcases h with rfl | rfl | rfl <;> rintro (h | h | h) <;> cases h

/-- Nothing that begins an emoji is kept together with complete emojis. -/
theorem not_together_of_canBegin (hb : b.CanBegin) (hprepended : classes.head? ≠ some .prepended)
    (hjoiner : classes.head? ≠ some .joiner) (heven : regionals classes % 2 = 0) :
    ¬Together classes b := by
  intro h
  cases h with
  | lineEnd _ => rcases hb with h | h | h <;> cases h
  | leading _ hnext =>
    rcases hnext with rfl | rfl | rfl | rfl <;> rcases hb with h | h | h <;> cases h
  | vowel _ _ hnext => rcases hnext with rfl | rfl <;> rcases hb with h | h | h <;> cases h
  | trailing _ _ => rcases hb with h | h | h <;> cases h
  | mark _ _ hnext => exact hb.not_isMark hnext
  | prepended _ _ => exact hprepended rfl
  | joined _ => exact hjoiner rfl
  | flag hodd => omega

/-- A run that ends in a pictograph has that pictograph or a mark last. -/
theorem EndsInPictograph.last (h : EndsInPictograph classes) :
    ∀ b ∈ classes.head?, b = .extend ∨ b = .pictograph := by
  intro b hb
  obtain ⟨more, rfl⟩ := List.head?_eq_some_iff.mp hb
  rcases endsInPictograph_cons.mp h with rfl | ⟨rfl, -⟩
  · exact .inr rfl
  · exact .inl rfl

/-- What a run that ends in a pictograph has last does not stand apart. -/
theorem EndsInPictograph.not_apart (h : EndsInPictograph classes) :
    ∀ b ∈ classes.head?, b.standsApart = false := by
  intro b hb
  rcases h.last b hb with rfl | rfl <;> rfl

/-- A mark belongs to the cluster before it. -/
theorem IsCluster.together_mark (h : IsCluster g)
    (hlast : ∀ b ∈ (past g).head?, b.standsApart = false) (hb : b.IsMark) :
    Together (past g) b := by
  cases hpast : past g with
  | nil => exact absurd (by simpa [past] using hpast) h.1
  | cons a more => exact .mark more (hlast a (by rw [hpast]; rfl)) hb

/-- A cluster goes on with marks behind it. -/
theorem IsCluster.append_marks (h : IsCluster g)
    (hlast : ∀ b ∈ (past g).head?, b.standsApart = false)
    (hmarks : ∀ m ∈ marks, Break.of m = .extend) : IsCluster (g ++ marks) := by
  induction marks generalizing g with
  | nil => rwa [List.append_nil]
  | cons m marks ih =>
    obtain ⟨hm, hmarks⟩ := List.forall_mem_cons.mp hmarks
    rw [List.append_cons]
    refine ih (h.concat (h.together_mark hlast (.inl hm))) (fun b hb => ?_) hmarks
    rw [past_concat, hm] at hb
    exact Option.some.inj hb ▸ rfl

end Neighbours

end Cluster

end Text

namespace Emoji

/-! ## Clusters with blanks around them -/

/-- A cluster that shows something and that no blank runs into. -/
structure Standalone (g : List Char) : Prop where
  cluster : IsCluster g
  visible : ∃ c ∈ g, isBlank c = false
  first : ∀ c ∈ g.head?, ¬(Break.of c).IsMark
  last : ∀ c ∈ g.getLast?, Break.of c ≠ .prepended

section Lists

variable {g : List Char} {gs : List (List Char)}

/-- A cluster that stands alone shows something. -/
theorem Standalone.isVisible (h : Standalone g) : isVisible g = true := by
  obtain ⟨c, hc, hblank⟩ := h.visible
  rw [Emoji.isVisible, Bool.not_eq_true', List.all_eq_false]
  exact ⟨c, hc, Bool.eq_false_iff.mp hblank⟩

/-- The blank is of no special class. -/
theorem class_of_space : Break.of ' ' = .other := by decide

/-- A blank behind a cluster that stands alone is not kept together with it. -/
theorem Standalone.not_together_space (h : Standalone g) :
    ¬Together (past g) (.of ' ') := by
  intro htogether
  have hlast := last_of_together_other (class_of_space ▸ htogether)
  rw [head?_past] at hlast
  obtain ⟨c, hc, hclass⟩ := Option.map_eq_some_iff.mp hlast
  exact h.last c hc hclass

/-- A blank before a cluster that stands alone is not kept together with it. -/
theorem Standalone.not_space_together (h : Standalone g) :
    ∀ c ∈ g.head?, ¬Together (past [' ']) (.of c) := by
  intro c hc htogether
  rw [past_singleton, class_of_space] at htogether
  exact h.first c hc (isMark_of_together_other htogether)

/-- A list with separators is a chain where everything in it is related to the separator on both
sides. -/
theorem isChain_intersperse {α : Type} {R : α → α → Prop} {sep : α} {xs : List α}
    (hleft : ∀ x ∈ xs, R x sep) (hright : ∀ x ∈ xs, R sep x) :
    (xs.intersperse sep).IsChain R := by
  induction xs with
  | nil => exact .nil
  | cons x xs ih =>
    obtain ⟨hx, hleft⟩ := List.forall_mem_cons.mp hleft
    obtain ⟨-, hright⟩ := List.forall_mem_cons.mp hright
    have ih := ih hleft hright
    cases xs with
    | nil => exact .singleton x
    | cons y ys =>
      rw [List.intersperse_cons_cons]
      refine .cons_cons hx ?_
      have hy := hright y List.mem_cons_self
      cases ys with
      | nil => exact .cons_cons hy ih
      | cons z zs => exact .cons_cons hy ih

/-- A filter that keeps the list and no separator gives the list back. -/
theorem filter_intersperse {α : Type} {p : α → Bool} {sep : α} {xs : List α}
    (hsep : p sep = false) (hxs : ∀ x ∈ xs, p x = true) :
    (xs.intersperse sep).filter p = xs := by
  induction xs with
  | nil => rfl
  | cons x xs ih =>
    obtain ⟨hx, hxs⟩ := List.forall_mem_cons.mp hxs
    cases xs with
    | nil => exact List.filter_cons_of_pos hx
    | cons y ys =>
      rw [List.intersperse_cons_cons, List.filter_cons_of_pos hx,
        List.filter_cons_of_neg (Bool.eq_false_iff.mp hsep), ih hxs]

/-- **A list of emojis with single blanks between them is read back.** -/
theorem split_intercalate (h : ∀ g ∈ gs, Standalone g) : split ([' '].intercalate gs) = gs := by
  have hclusters : ∀ g ∈ gs.intersperse [' '], IsCluster g := by
    intro g hg
    rcases mem_intersperse hg with rfl | hg
    · exact isCluster_singleton ' '
    · exact (h g hg).cluster
  have happart : (gs.intersperse [' ']).IsChain fun g g' =>
      ∀ c ∈ g'.head?, ¬Together (past g) (.of c) := by
    refine isChain_intersperse (fun g hg c hc => ?_) fun g hg => (h g hg).not_space_together
    exact Option.some.inj hc ▸ (h g hg).not_together_space
  have hspace : isVisible [' '] = false := by decide
  rw [split, List.intercalate, clusters_flatten hclusters happart,
    filter_intersperse hspace fun g hg => (h g hg).isVisible]

end Lists

/-! ## Flags, keycaps and pictographs -/

/-- A pictograph with any marks such as skin tones behind it, or several of these held together by
joiners. -/
inductive IsSequence : List Char → Prop where
  | pictograph {c : Char} (class_eq : Break.of c = .pictograph) : IsSequence [c]
  | mark {g : List Char} {m : Char} (sequence : IsSequence g) (class_eq : Break.of m = .extend) :
      IsSequence (g ++ [m])
  | joined {g : List Char} {c : Char} (sequence : IsSequence g)
      (class_eq : Break.of c = .pictograph) : IsSequence (g ++ ['\u200d', c])

/-- The emojis of several characters, and the pictographs that stand alone. A keycap is a key with
marks behind it. -/
inductive IsEmoji : List Char → Prop where
  | flag {a b : Char} (first : Break.of a = .regional) (second : Break.of b = .regional) :
      IsEmoji [a, b]
  | keycap {key : Char} {marks : List Char} (key_mem : key ∈ "0123456789#*".toList)
      (marks_extend : ∀ m ∈ marks, Break.of m = .extend) : IsEmoji (key :: marks)
  | sequence {g : List Char} (sequence : IsSequence g) : IsEmoji g

/-- A cluster that nothing can be added to by what begins an emoji. -/
structure Complete (g : List Char) : Prop where
  cluster : IsCluster g
  first : ∀ c ∈ g.head?, (Break.of c).CanBegin ∧ isBlank c = false
  not_prepended : (past g).head? ≠ some .prepended
  not_joiner : (past g).head? ≠ some .joiner
  even : regionals (past g) % 2 = 0

section Forms

variable {g : List Char} {gs : List (List Char)}

/-- A cluster is complete where it begins as an emoji does, and ends in a mark, in a pictograph or
in a character of no special class. -/
theorem complete_of_last (hcluster : IsCluster g)
    (hfirst : ∀ c ∈ g.head?, (Break.of c).CanBegin ∧ isBlank c = false)
    (hlast : ∀ b ∈ (past g).head?, b = .extend ∨ b = .pictograph ∨ b = .other) : Complete g where
  cluster := hcluster
  first := hfirst
  not_prepended := fun h => by rcases hlast _ h with h | h | h <;> cases h
  not_joiner := fun h => by rcases hlast _ h with h | h | h <;> cases h
  even := by
    cases hpast : past g with
    | nil => rfl
    | cons b more =>
      have hb : b ≠ .regional := by
        rintro rfl
        rcases hlast .regional (by rw [hpast]; rfl) with h | h | h <;> cases h
      rw [regionals_cons, if_neg hb]

/-- A sequence is one cluster that ends in a pictograph, and starts with one. -/
theorem isSequence_reads (h : IsSequence g) :
    IsCluster g ∧ EndsInPictograph (past g) ∧ ∀ c ∈ g.head?, Break.of c = .pictograph := by
  induction h with
  | @pictograph c hc =>
    refine ⟨isCluster_singleton c, ?_, fun d hd => Option.some.inj hd ▸ hc⟩
    exact endsInPictograph_cons.mpr (.inl hc)
  | @mark g m _ hm ih =>
    obtain ⟨hcluster, hends, hfirst⟩ := ih
    have hnext : Together (past g) (.of m) :=
      hcluster.together_mark hends.not_apart (.inl hm)
    refine ⟨hcluster.concat hnext, ?_, ?_⟩
    · rw [past_concat]
      exact endsInPictograph_cons.mpr (.inr ⟨hm, hends⟩)
    · rwa [List.head?_append_of_ne_nil g hcluster.1]
  | @joined g c _ hc ih =>
    obtain ⟨hcluster, hends, hfirst⟩ := ih
    have hjoiner : Break.of '\u200d' = .joiner := by decide
    have hjoined : IsCluster (g ++ ['\u200d']) :=
      hcluster.concat (hcluster.together_mark hends.not_apart (.inr (.inl hjoiner)))
    have hnext : Together (past (g ++ ['\u200d'])) (.of c) := by
      rw [past_concat, hjoiner, hc]
      exact .joined hends
    rw [List.append_cons]
    refine ⟨hjoined.concat hnext, ?_, ?_⟩
    · rw [past_concat]
      exact endsInPictograph_cons.mpr (.inl hc)
    · rwa [List.append_assoc, List.head?_append_of_ne_nil g hcluster.1]

/-- A sequence is complete. -/
theorem IsSequence.complete (h : IsSequence g) : Complete g := by
  obtain ⟨hcluster, hends, hfirst⟩ := isSequence_reads h
  refine complete_of_last hcluster (fun c hc => ?_) fun b hb => ?_
  · exact ⟨.inl (hfirst c hc), no_blank_of_class (.inl (hfirst c hc))⟩
  · exact (hends.last b hb).imp_right .inl

/-- An emoji is complete. -/
theorem IsEmoji.complete (h : IsEmoji g) : Complete g := by
  cases h with
  | @flag a b ha hb =>
    have hpast : past [a, b] = [.regional, .regional] := by simp [past, ha, hb]
    have hnext : Together (past [a]) (.of b) := by
      rw [past_singleton, ha, hb]
      exact .flag (by decide)
    refine ⟨(isCluster_singleton a).concat hnext, fun c hc => ?_, ?_, ?_, ?_⟩
    · obtain rfl := Option.some.inj hc
      exact ⟨.inr (.inl ha), no_blank_of_class (.inr ha)⟩
    all_goals
      rw [hpast]
      decide
  | @keycap key marks hkey hmarks =>
    have hkeys : ("0123456789#*".toList.all fun key =>
        decide (Break.of key = .other ∧ isBlank key = false)) = true := by
      decide +kernel
    obtain ⟨hclass, hblank⟩ := of_decide_eq_true (List.all_eq_true.mp hkeys key hkey)
    have hcluster : IsCluster ([key] ++ marks) := by
      refine (isCluster_singleton key).append_marks (fun b hb => ?_) hmarks
      rw [past_singleton, hclass] at hb
      exact Option.some.inj hb ▸ rfl
    refine complete_of_last hcluster (fun c hc => ?_) fun b hb => ?_
    · obtain rfl := Option.some.inj hc
      exact ⟨.inr (.inr hclass), hblank⟩
    · rw [head?_past] at hb
      obtain ⟨c, hc, rfl⟩ := Option.map_eq_some_iff.mp hb
      rcases List.mem_cons.mp (List.mem_of_getLast? hc) with rfl | hc
      · exact .inr (.inr hclass)
      · exact .inl (hmarks c hc)
  | sequence hsequence => exact hsequence.complete

/-- What is complete stands alone. -/
theorem Complete.standalone (h : Complete g) : Standalone g where
  cluster := h.cluster
  visible := by
    obtain ⟨c, more, rfl⟩ := List.exists_cons_of_ne_nil h.cluster.1
    exact ⟨c, List.mem_cons_self, (h.first c rfl).2⟩
  first := by
    exact fun c hc => (h.first c hc).1.not_isMark
  last := by
    intro c hc hclass
    refine h.not_prepended ?_
    rw [head?_past, Option.mem_def.mp hc, Option.map_some, hclass]

/-- **Emojis keep their bounds with nothing between them.** -/
theorem split_flatten (h : ∀ g ∈ gs, Complete g) : split gs.flatten = gs := by
  have hclusters : ∀ g ∈ gs, IsCluster g := fun g hg => (h g hg).cluster
  have happart : gs.IsChain fun g g' => ∀ c ∈ g'.head?, ¬Together (past g) (.of c) := by
    refine (List.pairwise_of_forall_mem_list fun g hg g' hg' c hc => ?_).isChain
    have hcomplete := h g hg
    exact not_together_of_canBegin ((h g' hg').first c hc).1 hcomplete.not_prepended
      hcomplete.not_joiner hcomplete.even
  rw [split, clusters_flatten hclusters happart]
  exact List.filter_eq_self.mpr fun g hg => (h g hg).standalone.isVisible

end Forms

/-! ## Texts -/

/-- A text is split into these texts where its characters are split into theirs. -/
theorem splitText_eq {s : String} {gs : List String}
    (h : split s.toList = gs.map String.toList) : splitText s = gs := by
  rw [splitText, h, map_ofList_toList]

/-- **A list of emojis is read back from its text.** The emojis may be any clusters that show
something and that no blank runs into, with single blanks between them. Flags, keycaps and
pictographs with skin tones and joiners are among these, and keep their bounds even with nothing
between them. The pieces of any text make it up, are cut where the rules of text segmentation put a
boundary and nowhere else, and are dropped only where they are all blank. -/
theorem splitText_roundtrip :
    (∀ gs : List String, (∀ g ∈ gs, Standalone g.toList) → splitText (" ".intercalate gs) = gs) ∧
    (∀ g, IsEmoji g → Standalone g) ∧
    (∀ gs : List String, (∀ g ∈ gs, IsEmoji g.toList) → splitText (String.join gs) = gs) ∧
    ∀ s : String, ∃ pieces : List String,
      String.join pieces = s ∧ "" ∉ pieces ∧ splitText s = pieces.filter (!allBlank ·) ∧
      ∀ before c after, s.toList = before ++ c :: after → before ≠ [] →
        (IsCut (pieces.map String.toList) before ↔ ¬Together (past before) (.of c)) := by
  refine ⟨fun gs hgs => ?_, fun g hg => hg.complete.standalone, fun gs hgs => ?_, fun s => ?_⟩
  · have hstandalone : ∀ g ∈ gs.map String.toList, Standalone g := List.forall_mem_map.mpr hgs
    refine splitText_eq ?_
    rw [String.toList_intercalate]
    exact split_intercalate hstandalone
  · have hcomplete : ∀ g ∈ gs.map String.toList, Complete g :=
      List.forall_mem_map.mpr fun g hg => (hgs g hg).complete
    refine splitText_eq ?_
    rw [String.toList_join]
    exact split_flatten hcomplete
  · have hpieces := map_toList_ofList (clusters s.toList)
    refine ⟨(clusters s.toList).map String.ofList, ?_, ?_, ?_, fun before c after hs hbefore => ?_⟩
    · rw [← String.toList_inj, String.toList_join, List.flatMap_def, hpieces, flatten_clusters]
    · intro hempty
      obtain ⟨g, hg, hnil⟩ := List.mem_map.mp hempty
      exact clusters_ne_nil _ g hg (String.ofList_eq_empty_iff.mp hnil)
    · rw [splitText, split, List.filter_map]
      refine congrArg (List.map String.ofList) (List.filter_congr fun g _ => ?_)
      simp only [isVisible, allBlank, Function.comp, String.toList_ofList]
    · rw [hpieces, hs]
      exact isCut_clusters_iff hbefore

/-- Two flags, a skin tone, a keycap, and two pictographs held together by a joiner. -/
theorem splitText_roundtrip_mixed :
    let emojis := ["🇩🇪", "🇫🇷", "👍🏽", "1\ufe0f\u20e3", "👩\u200d👧"]
    (∀ g ∈ emojis, IsEmoji g.toList) ∧
      splitText "🇩🇪 🇫🇷 👍🏽 1\ufe0f\u20e3 👩\u200d👧" = emojis ∧
      splitText "🇩🇪🇫🇷👍🏽1\ufe0f\u20e3👩\u200d👧" = emojis := by
  intro emojis
  have hthumb : IsSequence ("👍".toList ++ "🏽".toList) :=
    .mark (.pictograph (by decide +kernel)) (by decide +kernel)
  have hfamily : IsSequence ("👩".toList ++ "\u200d👧".toList) :=
    .joined (.pictograph (by decide +kernel)) (by decide +kernel)
  have hkeycap : IsEmoji ('1' :: ['\ufe0f', '\u20e3']) := by
    refine .keycap (by decide) (List.forall_mem_cons.mpr ⟨by decide +kernel, ?_⟩)
    exact List.forall_mem_singleton.mpr (by decide +kernel)
  have hemojis : ∀ g ∈ emojis, IsEmoji g.toList := by
    refine List.forall_mem_cons.mpr ⟨.flag (by decide +kernel) (by decide +kernel), ?_⟩
    refine List.forall_mem_cons.mpr ⟨.flag (by decide +kernel) (by decide +kernel), ?_⟩
    refine List.forall_mem_cons.mpr ⟨.sequence hthumb, ?_⟩
    refine List.forall_mem_cons.mpr ⟨hkeycap, ?_⟩
    exact List.forall_mem_singleton.mpr (.sequence hfamily)
  obtain ⟨hspaced, hstandalone, hjoined, -⟩ := splitText_roundtrip
  exact ⟨hemojis, hspaced _ fun g hg => hstandalone _ (hemojis g hg), hjoined _ hemojis⟩

end Emoji

end ChatRelay
