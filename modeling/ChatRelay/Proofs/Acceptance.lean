import ChatRelay.Proofs.Validity

/-!
# Which documents are configurations

What is read of a document is sound, and the document is valid then. A valid document has no problem
that could be reported, unless the problem is a section that is no mapping or a whole number with
too many digits.

The main statements are `Config.accepted_iff`, which says which documents are accepted and what is
read of them, and `Config.reported_iff`, which says which problems are reported as something else
than an invalid value.
-/

namespace ChatRelay

/-! ## What a document says -/

namespace Document

variable {d : Document} {key text text' : String}

/-- A field whose text is read is given. -/
theorem GivesText.gives (h : d.GivesText key text) : d.Gives key := by
  obtain ⟨v, hv, hgiven, -⟩ := h
  exact ⟨v, hv, hgiven⟩

/-- The text of a field that is given is not empty, since an empty text counts as not given. -/
theorem GivesText.ne_empty (h : d.GivesText key text) : text ≠ "" := by
  obtain ⟨v, -, hgiven, hshown⟩ := h
  exact shown?_ne_empty hgiven hshown

/-- A field has one text. -/
theorem GivesText.unique (h : d.GivesText key text) (h' : d.GivesText key text') :
    text = text' := by
  obtain ⟨v, hv, -, hshown⟩ := h
  obtain ⟨v', hv', -, hshown'⟩ := h'
  rw [hv] at hv'
  cases hv'
  rw [hshown] at hshown'
  exact Option.some.inj hshown'

/-- There is one list of channels. -/
theorem ListsItems.unique {items items' : List Document} (h : d.ListsItems items)
    (h' : d.ListsItems items') : items = items' := by
  obtain ⟨list, hlist, hitems, -⟩ := h
  obtain ⟨list', hlist', hitems', -⟩ := h'
  rw [hlist] at hlist'
  cases hlist'
  rw [hitems] at hitems'
  exact Option.some.inj hitems'

end Document

/-! ## What is accepted -/

/-- The item of a list of channels that is the first with a name as its text, and its profile. -/
def ChannelProfile.IsFirst (items : List Document) (name : String) : Option ChannelProfile → Prop
  | some p => ∃ before item after, items = before ++ item :: after ∧ p.Reads item ∧
    item.GivesText "name" name ∧ ∀ other ∈ before, ¬other.GivesText "name" name
  | none => ∀ item ∈ items, ¬item.GivesText "name" name

/-- Among the profiles of a list the first one with a name is that of the first item with it. -/
theorem ChannelProfile.isFirst_find? {items : List Document} {profiles : List ChannelProfile}
    (h : List.Forall₂ Reads items profiles) (name : String) :
    IsFirst items name (profiles.find? fun profile => profile.name == name) := by
  induction h with
  | nil => exact List.forall_mem_nil _
  | @cons item p items profiles hp _ ih =>
    rw [List.find?_cons]
    by_cases hname : p.name = name
    · rw [hname, beq_self_eq_true]
      exact ⟨[], item, items, rfl, hp, hname ▸ hp.name, List.forall_mem_nil _⟩
    · have hother : ¬item.GivesText "name" name := fun h => hname (hp.name.unique h)
      rw [beq_false_of_ne hname]
      dsimp only
      cases hfind : profiles.find? fun profile => profile.name == name with
      | none =>
        rw [hfind] at ih
        exact List.forall_mem_cons.mpr ⟨hother, ih⟩
      | some q =>
        rw [hfind] at ih
        obtain ⟨before, found, after, rfl, hq, hfound, hbefore⟩ := ih
        exact ⟨item :: before, found, after, rfl, hq, hfound,
          List.forall_mem_cons.mpr ⟨hother, hbefore⟩⟩

/-- Nothing of a configuration is empty that must be given, and no limit is below zero. -/
structure Config.IsSound (c : Config) : Prop where
  token : c.token ≠ ""
  operator : c.operator ≠ ""
  model : c.model ≠ ""
  channels : c.channels ≠ []
  profiles : ∀ p ∈ c.channels, p.name ≠ "" ∧ p.workdir ≠ "" ∧ p.logChannel ≠ some ""
  maxDepth : 0 ≤ c.engine.maxDepth
  maxTurns : 0 ≤ c.engine.maxTurns

/-- The texts of a profile that is read are not empty. -/
theorem ChannelProfile.Reads.sound {item : Document} {p : ChannelProfile} (h : p.Reads item) :
    p.name ≠ "" ∧ p.workdir ≠ "" ∧ p.logChannel ≠ some "" := by
  refine ⟨h.name.ne_empty, ?_, ?_⟩
  · rcases h.workdir with hgiven | ⟨-, hstandard⟩
    · exact hgiven.ne_empty
    · rw [hstandard]
      decide
  · rcases h.logChannel with ⟨l, hl, hgiven⟩ | ⟨-, hnone⟩
    · rw [hl]
      exact fun h => hgiven.ne_empty (Option.some.inj h)
    · rw [hnone]
      exact nofun

/-- What a profile is read from is a mapping with a name and a skill. -/
theorem ChannelProfile.Reads.isProfile {item : Document} {p : ChannelProfile} (h : p.Reads item) :
    item.IsProfile := by
  obtain ⟨v, s, hv, hroot, -⟩ := h.skill
  exact ⟨Document.isSome_members?_of_member? hv, h.name.gives, v, s, hv, hroot⟩

namespace EngineSettings

variable {d v : Document} {key : String} {standard limit : Int} {s : EngineSettings}

/-- A limit that is read is not below zero, when the standard one is not. -/
theorem ReadsLimit.nonneg (h : ReadsLimit d key standard limit) (hstandard : 0 ≤ standard) :
    0 ≤ limit := by
  rcases h with ⟨v, -, -, hlimit⟩ | ⟨-, rfl⟩
  · exact hlimit
  · exact hstandard

/-- A limit that is given and read is a whole number that is not below zero. -/
theorem ReadsLimit.isLimit (h : ReadsLimit d key standard limit) (hv : d.member? key = some v) :
    v.IsLimit := by
  rcases h with ⟨v', hv', hroot, hlimit⟩ | ⟨hnone, -⟩
  · rw [hv] at hv'
    cases hv'
    exact ⟨limit.toNat, by rw [hroot, Int.toNat_of_nonneg hlimit]⟩
  · rw [hv] at hnone
    cases hnone

/-- The limits of settings that are read are not below zero. -/
theorem Reads.nonneg (h : s.Reads d) : 0 ≤ s.maxDepth ∧ 0 ≤ s.maxTurns := by
  rcases h with ⟨e, -, -, hs⟩ | ⟨-, rfl⟩
  · exact ⟨hs.maxDepth.nonneg (by decide), hs.maxTurns.nonneg (by decide)⟩
  · decide

/-- A section of settings that is read is null, or a mapping whose limits are as they must be. -/
theorem Reads.isSettings {e : Document} (h : s.Reads d) (he : d.member? "engine" = some e) :
    e.root = .null ∨ e.IsSettings := by
  rcases h with ⟨e', he', hmapping, hs⟩ | ⟨hnull, -⟩
  · rw [he] at he'
    cases he'
    refine .inr ⟨hmapping, fun key hkey v hv => ?_⟩
    simp only [Document.limitKeys, List.mem_cons, List.not_mem_nil, or_false] at hkey
    rcases hkey with rfl | rfl
    · exact hs.maxDepth.isLimit hv
    · exact hs.maxTurns.isLimit hv
  · exact .inl (hnull e he)

end EngineSettings

namespace Config

variable {d : Document} {c : Config}

/-- A configuration that is read is sound. -/
theorem Reads.sound (h : c.Reads d) : c.IsSound := by
  obtain ⟨items, ⟨list, -, -, hne⟩, hprofiles⟩ := h.channels
  obtain ⟨discord, -, htoken⟩ := h.token
  obtain ⟨discord', -, hoperator⟩ := h.operator
  obtain ⟨claude, -, hmodel⟩ := h.model
  have hsound : List.Forall₂ (fun p item => (p.name ≠ "" ∧ p.workdir ≠ "" ∧
      p.logChannel ≠ some "") ∧ ChannelProfile.Reads item p) c.channels items :=
    hprofiles.flip.imp fun p item hp => ⟨hp.sound, hp⟩
  have hchannels : c.channels ≠ [] := by
    intro hnil
    rw [hnil] at hprofiles
    exact hne (List.forall₂_nil_right_iff.mp hprofiles)
  exact ⟨htoken.ne_empty, hoperator.ne_empty, hmodel.ne_empty, hchannels,
    ((List.forall₂_and_left _ _).mp hsound).1, h.engine.nonneg.1, h.engine.nonneg.2⟩

/-- A document of which a configuration is read is valid. -/
theorem Reads.valid (h : c.Reads d) : IsValid d := by
  obtain ⟨items, hitems, hprofiles⟩ := h.channels
  obtain ⟨discord, hdiscord, htoken⟩ := h.token
  obtain ⟨discord', hdiscord', hoperator⟩ := h.operator
  obtain ⟨claude, hclaude, hmodel⟩ := h.model
  have hitem : List.Forall₂ (fun item p => item.IsProfile ∧ ChannelProfile.Reads item p) items
      c.channels := hprofiles.imp fun item p hp => ⟨hp.isProfile, hp⟩
  refine ⟨?_, ⟨items, hitems, ((List.forall₂_and_left _ _).mp hitem).1⟩, fun e he =>
    h.engine.isSettings he⟩
  simp only [Document.requiredFields, List.forall_mem_cons, List.not_mem_nil, false_implies,
    implies_true, and_true]
  exact ⟨⟨discord, hdiscord, htoken.gives⟩, ⟨discord', hdiscord', hoperator.gives⟩,
    ⟨claude, hclaude, hmodel.gives⟩⟩

/-- A document with a problem is not valid, unless a section is no mapping or a whole number has too
many digits. -/
theorem IsValid.not_isIn (h : IsValid d) (hmapping : d.members?.isSome)
    (hsections : ∀ name ∈ ["discord", "claude"], ¬d.Misuses name) (hlong : ¬d.HoldsLong)
    (p : Problem) : ¬p.IsIn d := by
  obtain ⟨items, hitems, hprofiles⟩ := h.channels
  intro hp
  cases p with
  | notMapping =>
    rw [show d.members? = none from hp] at hmapping
    cases hmapping
  | sectionNotMapping name =>
    obtain ⟨hmisuses, hname⟩ := hp
    refine hsections name ?_ hmisuses
    rcases hname with rfl | ⟨rfl, -⟩ <;> decide
  | missing field =>
    obtain ⟨name, key, hfield, -, hnot⟩ := hp
    exact hnot (h.required (name, key) hfield)
  | noChannels => exact hp items hitems
  | badChannel =>
    obtain ⟨items', hitems', item, hmem, hnot⟩ := hp
    rw [hitems.unique hitems'] at hprofiles
    exact hnot (hprofiles item hmem)
  | engineNotMapping =>
    obtain ⟨e, he, hnotNull, hmembers⟩ := hp
    rcases h.engine e he with hnull | hsettings
    · exact hnotNull hnull
    · have hsome := hsettings.mapping
      rw [hmembers] at hsome
      cases hsome
  | badLimit key =>
    obtain ⟨hkey, e, v, he, hv, hnot⟩ := hp
    rcases h.engine e he with hnull | hsettings
    · have hsome := Document.isSome_members?_of_member? hv
      rw [Document.members?, Document.cell?, hnull] at hsome
      cases hsome
    · exact hnot (hsettings.limits key hkey v hv)
  | longNumber limit => exact hlong hp

/-- **A document is accepted just where it is valid.** Take a mapping whose sections of credentials
are mappings, if they are given, and which holds no whole number of too many digits. A configuration
is read of it just where it gives what a configuration must give. What is read is what the document
says: as many profiles as it has channels, in their order, with nothing empty that must be given and
no limit below zero; and the profile that is found for a name is that of the first channel whose
name has this text. -/
theorem accepted_iff (hmapping : d.members?.isSome)
    (hsections : ∀ name ∈ ["discord", "claude"], ∀ s, d.member? name = some s →
      s.isGiven = false ∨ s.members?.isSome) (hlong : ¬d.HoldsLong) :
    ((∃ c, ofDocument d = .ok c) ↔ IsValid d) ∧
      ∀ c, ofDocument d = .ok c → c.Reads d ∧ c.IsSound ∧
        ∃ items, d.ListsItems items ∧ items.length = c.channels.length ∧
          ∀ name, ChannelProfile.IsFirst items name (c.findChannel name) := by
  have hmeets := meets_ofDocument d
  refine ⟨⟨fun ⟨c, hc⟩ => ?_, fun hvalid => ?_⟩, fun c hc => ?_⟩
  · rw [hc] at hmeets
    exact Reads.valid hmeets
  · have hmisuses : ∀ name ∈ ["discord", "claude"], ¬d.Misuses name := by
      rintro name hname ⟨s, hs, hgiven, hmembers⟩
      rcases hsections name hname s hs with hnot | hsome
      · rw [hgiven] at hnot
        cases hnot
      · rw [hmembers] at hsome
        cases hsome
    cases hread : ofDocument d with
    | ok c => exact ⟨c, rfl⟩
    | error p =>
      rw [hread] at hmeets
      exact absurd hmeets (hvalid.not_isIn hmapping hmisuses hlong p)
  · rw [hc] at hmeets
    have hreads : c.Reads d := hmeets
    obtain ⟨items, hitems, hprofiles⟩ := hreads.channels
    exact ⟨hreads, hreads.sound, items, hitems, hprofiles.length_eq,
      ChannelProfile.isFirst_find? hprofiles⟩

/-- A configuration with two channels, one of which has a number for its name. -/
def sample : Document :=
  { cells := #[
      .mapping [(.text "discord", .collection 1), (.text "claude", .collection 2),
        (.text "channels", .collection 3), (.text "engine", .collection 6)],
      .mapping [(.text "token", .text "tok"), (.text "user", .integer 42)],
      .mapping [(.text "model", .text "sonnet")],
      .list [.collection 4, .collection 5],
      .mapping [(.text "name", .text "general"), (.text "skill", .text "")],
      .mapping [(.text "name", .integer 7), (.text "skill", .text "help")],
      .mapping [(.text "max_iterations", .integer 3)]]
    root := .collection 0 }

/-- A part of it. -/
def samplePart (v : Document.Value) : Document := { sample with root := v }

/-- The sample is a valid configuration. -/
theorem isValid_sample : IsValid sample := by
  refine ⟨?_, ⟨[samplePart (.collection 4), samplePart (.collection 5)], ?_, ?_⟩, ?_⟩
  · simp only [Document.requiredFields, List.forall_mem_cons, List.not_mem_nil, false_implies,
      implies_true, and_true]
    exact ⟨⟨samplePart (.collection 1), rfl, samplePart (.text "tok"), rfl, rfl⟩,
      ⟨samplePart (.collection 1), rfl, samplePart (.integer 42), rfl, rfl⟩,
      ⟨samplePart (.collection 2), rfl, samplePart (.text "sonnet"), rfl, rfl⟩⟩
  · exact ⟨samplePart (.collection 3), rfl, rfl, List.cons_ne_nil _ _⟩
  · simp only [List.forall_mem_cons, List.not_mem_nil, false_implies, implies_true, and_true]
    exact ⟨⟨rfl, ⟨samplePart (.text "general"), rfl, rfl⟩, samplePart (.text ""), "", rfl, rfl⟩,
      ⟨rfl, ⟨samplePart (.integer 7), rfl, rfl⟩, samplePart (.text "help"), "help", rfl, rfl⟩⟩
  · intro e he
    have hengine : sample.member? "engine" = some (samplePart (.collection 6)) := rfl
    rw [hengine] at he
    cases he
    refine .inr ⟨rfl, fun key hkey v hv => ?_⟩
    simp only [Document.limitKeys, List.mem_cons, List.not_mem_nil, or_false] at hkey
    rcases hkey with rfl | rfl
    · cases hv
    · cases hv
      exact ⟨3, rfl⟩

/-- It is accepted, and the operator is the text of a number. -/
theorem accepted_sample : sample.members?.isSome ∧ ¬sample.HoldsLong ∧ IsValid sample ∧
    ∃ c, ofDocument sample = .ok c ∧ c.IsSound ∧ c.operator = "42" := by
  have hlong : ¬sample.HoldsLong := by
    refine Document.not_holdsLong rfl ?_
    decide +kernel
  have hsections : ∀ name ∈ ["discord", "claude"], ∀ s, sample.member? name = some s →
      s.isGiven = false ∨ s.members?.isSome := by
    simp only [List.forall_mem_cons, List.not_mem_nil, false_implies, implies_true, and_true]
    refine ⟨fun s hs => ?_, fun s hs => ?_⟩
    · cases hs
      exact .inr rfl
    · cases hs
      exact .inr rfl
  obtain ⟨haccepted, hread⟩ := accepted_iff (d := sample) rfl hsections hlong
  obtain ⟨c, hc⟩ := haccepted.mpr isValid_sample
  obtain ⟨hreads, hsound, -⟩ := hread c hc
  obtain ⟨s, hs, hoperator⟩ := hreads.operator
  cases hs
  have hshown : (samplePart (.integer 42)).shown? = some "42" := by decide +kernel
  exact ⟨rfl, hlong, isValid_sample, c, hc, hsound,
    hoperator.unique ⟨samplePart (.integer 42), rfl, rfl, hshown⟩⟩

/-! ## What is reported -/

/-- Only a section that is no mapping is reported as something else than an invalid value. -/
theorem Problem.kind_ne_iff {p : Problem} :
    p.kind ≠ "ValueError" ↔ ∃ name, p = .sectionNotMapping name := by
  constructor
  · intro hkind
    cases p with
    | sectionNotMapping name => exact ⟨name, rfl⟩
    | _ => exact absurd rfl hkind
  · rintro ⟨name, rfl⟩
    exact show "AttributeError" ≠ "ValueError" by decide

/-- A document whose first problem is a section that is no mapping: the credentials, or the section
behind credentials with nothing missing. -/
def Misused (d : Document) : Prop :=
  d.Misuses "discord" ∨
    d.SectionGives "discord" "token" ∧ d.SectionGives "discord" "user" ∧ d.Misuses "claude"

/-- Such a document is not accepted, and its problem is not reported as an invalid value. -/
theorem meets_of_misused (h : Misused d) :
    Meets (fun _ => False) (fun p => p.kind ≠ "ValueError") (ofDocument d) := by
  have hcredentials : ∀ name, Meets (fun s => s = given? d name ∧ ¬d.Misuses name)
      (fun p => p.kind ≠ "ValueError") (credentials d name) := by
    intro name
    refine (meets_credentials d name).mono (fun s hs => hs) ?_
    rintro p ⟨hp, -⟩
    exact Problem.kind_ne_iff.mpr ⟨name, hp⟩
  have hrequired : ∀ name key, d.SectionGives name key →
      Meets (fun _ => True) (fun p => p.kind ≠ "ValueError")
        (required name (given? d name) key) := by
    intro name key hgives
    exact (meets_required d name key).mono (fun _ _ => trivial) fun p hp => absurd hgives hp.2
  have hmapping : d.members?.isSome := by
    rcases h with ⟨s, hs, -⟩ | ⟨⟨s, hs, -⟩, -, -⟩
    · exact Document.isSome_members?_of_member? hs
    · exact Document.isSome_members?_of_member? hs
  have hnot : ¬d.members?.isNone = true := by
    rw [Option.isNone_iff_eq_none, ← Option.not_isSome_iff_eq_none, not_not]
    exact hmapping
  unfold ofDocument
  rw [if_neg hnot]
  refine (hcredentials "discord").bind ?_
  rintro _ ⟨rfl, hdiscord⟩
  rcases h with hmisuses | ⟨htoken, hoperator, hmisuses⟩
  · exact absurd hmisuses hdiscord
  · refine (hrequired "discord" "token" htoken).bind fun token _ => ?_
    refine (hrequired "discord" "user" hoperator).bind fun operator _ => ?_
    refine (hcredentials "claude").bind ?_
    rintro _ ⟨rfl, hclaude⟩
    exact absurd hmisuses hclaude

/-- **Every problem is reported as an invalid value but one.** A document that is not accepted has
the problem that is reported. It is reported as an invalid value, unless a section of credentials is
given that is no mapping, which is reported as something else when it is the first problem. -/
theorem reported_iff (d : Document) :
    (∀ p, ofDocument d = .error p → p.IsIn d ∧
      (p.kind = "ValueError" ∨ ∃ name, p = .sectionNotMapping name ∧ p.kind = "AttributeError")) ∧
    ((∃ p, ofDocument d = .error p ∧ p.kind ≠ "ValueError") ↔ Misused d) := by
  have hmeets := meets_ofDocument d
  refine ⟨fun p hp => ?_, ⟨?_, fun hmisused => ?_⟩⟩
  · rw [hp] at hmeets
    refine ⟨hmeets, ?_⟩
    by_cases hkind : p.kind = "ValueError"
    · exact .inl hkind
    · obtain ⟨name, rfl⟩ := Problem.kind_ne_iff.mp hkind
      exact .inr ⟨name, rfl, rfl⟩
  · rintro ⟨p, hp, hkind⟩
    rw [hp] at hmeets
    obtain ⟨name, rfl⟩ := Problem.kind_ne_iff.mp hkind
    obtain ⟨hmisuses, hname⟩ := hmeets
    rcases hname with rfl | ⟨rfl, htoken, hoperator⟩
    · exact .inl hmisuses
    · exact .inr ⟨htoken, hoperator, hmisuses⟩
  · have hrefused := meets_of_misused hmisused
    cases hread : ofDocument d with
    | ok c =>
      rw [hread] at hrefused
      exact hrefused.elim
    | error p =>
      rw [hread] at hrefused
      exact ⟨p, rfl, hrefused⟩

/-- A document with a text in the place of its credentials. -/
def misused : Document :=
  { cells := #[
      .mapping [(.text "discord", .text "tok"), (.text "claude", .collection 1),
        (.text "channels", .collection 2)],
      .mapping [(.text "model", .text "m")], .list [.collection 3],
      .mapping [(.text "name", .text "g"), (.text "skill", .text "")]]
    root := .collection 0 }

/-- Not every problem is reported as an invalid value. -/
theorem not_all_reported : ¬∀ d, (∃ c, ofDocument d = .ok c) ∨
    ∃ p, ofDocument d = .error p ∧ p.kind = "ValueError" := by
  intro hall
  have hread : ofDocument misused = .error (.sectionNotMapping "discord") := rfl
  rcases hall misused with ⟨c, hc⟩ | ⟨p, hp, hkind⟩
  · rw [hread] at hc
    cases hc
  · rw [hread] at hp
    cases hp
    exact absurd hkind (by decide)

/-- That text is the problem of this document, and it is reported as something else. -/
theorem reported_misused : ∃ p, ofDocument misused = .error p ∧ p.IsIn misused ∧
    p.kind ≠ "ValueError" ∧ ∃ name, p = .sectionNotMapping name ∧ p.kind = "AttributeError" := by
  obtain ⟨hreported, hother⟩ := reported_iff misused
  have hmisuses : misused.Misuses "discord" := ⟨{ misused with root := .text "tok" }, rfl, rfl, rfl⟩
  obtain ⟨p, hp, hkind⟩ := hother.mpr (.inl hmisuses)
  obtain ⟨hin, hcases⟩ := hreported p hp
  exact ⟨p, hp, hin, hkind, hcases.resolve_left hkind⟩

end Config

end ChatRelay
