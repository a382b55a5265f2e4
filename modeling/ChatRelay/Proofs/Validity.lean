import ChatRelay.Config.Reader
import ChatRelay.Proofs.Shown
import Mathlib.Data.List.Forall2

/-!
# Reading a valid configuration

`Config.IsValid` says what a configuration must give, and `Config.Problem.IsIn` what each problem
that is reported says about the document. Every reader of a part of the configuration meets both
sides: what it returns is what the document says, and the problem that it reports is really there.
The main statement is `Config.meets_ofDocument`.
-/

namespace ChatRelay

/-! ## Results and problems -/

namespace Config

variable {α β : Type} {good : α → Prop} {bad : Problem → Prop}

/-- What is read has one property, and the problem that is reported has another one. -/
def Meets (good : α → Prop) (bad : Problem → Prop) : Except Problem α → Prop
  | .ok a => good a
  | .error p => bad p

/-- What follows from the properties of the result and of the problem is met as well. -/
theorem Meets.mono {good' : α → Prop} {bad' : Problem → Prop} {x : Except Problem α}
    (h : Meets good bad x) (hgood : ∀ a, good a → good' a) (hbad : ∀ p, bad p → bad' p) :
    Meets good' bad' x := by
  cases x with
  | ok a => exact hgood a h
  | error p => exact hbad p h

/-- A reader that goes on with what another one has read. -/
theorem Meets.bind {good' : β → Prop} {x : Except Problem α} {f : α → Except Problem β}
    (h : Meets good bad x) (hf : ∀ a, good a → Meets good' bad (f a)) :
    Meets good' bad (x >>= f) := by
  cases x with
  | ok a => exact hf a h
  | error p => exact h

/-- A reader that makes something of what another one has read. -/
theorem Meets.map {good' : β → Prop} {x : Except Problem α} {f : α → β} (h : Meets good bad x)
    (hf : ∀ a, good a → good' (f a)) : Meets good' bad (x.map f) := by
  cases x with
  | ok a => exact hf a h
  | error p => exact h

/-- A reader that reads one thing after the other. -/
theorem meets_mapM {f : α → Except Problem β} {read : α → β → Prop} {l : List α}
    (h : ∀ a ∈ l, Meets (read a) bad (f a)) : Meets (List.Forall₂ read l) bad (l.mapM f) := by
  induction l with
  | nil => exact List.Forall₂.nil
  | cons a rest ih =>
    obtain ⟨hfirst, hrest⟩ := List.forall_mem_cons.mp h
    rw [List.mapM_cons]
    refine hfirst.bind fun b hb => (ih hrest).bind fun bs hbs => ?_
    exact List.Forall₂.cons hb hbs

end Config

/-! ## What a configuration must give -/

namespace Document

/-- The value of a key of a mapping is given, and this is its text. -/
def GivesText (d : Document) (key text : String) : Prop :=
  ∃ v, d.member? key = some v ∧ v.isGiven = true ∧ v.shown? = some text

/-- The value of a key is given. -/
def Gives (d : Document) (key : String) : Prop :=
  ∃ v, d.member? key = some v ∧ v.isGiven = true

/-- The value of a key of a section is given. -/
def SectionGives (d : Document) (name key : String) : Prop :=
  ∃ s, d.member? name = some s ∧ s.Gives key

/-- A section is given that is no mapping. -/
def Misuses (d : Document) (name : String) : Prop :=
  ∃ s, d.member? name = some s ∧ s.isGiven = true ∧ s.members? = none

/-- A mapping for a channel: the name is given, and the skill is a text. -/
structure IsProfile (d : Document) : Prop where
  mapping : d.members?.isSome
  name : d.Gives "name"
  skill : ∃ v s, d.member? "skill" = some v ∧ v.root = .text s

/-- A list with at least one item. -/
def ListsItems (d : Document) (items : List Document) : Prop :=
  ∃ list, d.member? "channels" = some list ∧ list.items? = some items ∧ items ≠ []

/-- A value is a whole number from zero on. -/
def IsLimit (d : Document) : Prop := ∃ n : Nat, d.root = .integer n

/-- The keys of the limits of the engine. -/
def limitKeys : List String := ["max_feedback_depth", "max_iterations"]

/-- A mapping of settings: the limits, where they stand, are whole numbers from zero on. -/
structure IsSettings (d : Document) : Prop where
  mapping : d.members?.isSome
  limits : ∀ key ∈ limitKeys, ∀ v, d.member? key = some v → v.IsLimit

/-- The fields that must be given, each with the name of its section. -/
def requiredFields : List (String × String) :=
  [("discord", "token"), ("discord", "user"), ("claude", "model")]

end Document

namespace Config

/-- A document that is a configuration. -/
structure IsValid (d : Document) : Prop where
  required : ∀ field ∈ Document.requiredFields, d.SectionGives field.1 field.2
  channels : ∃ items, d.ListsItems items ∧ ∀ item ∈ items, item.IsProfile
  engine : ∀ e, d.member? "engine" = some e → e.root = .null ∨ e.IsSettings

/-- What a problem says about a document. -/
def Problem.IsIn (d : Document) : Problem → Prop
  | notMapping => d.members? = none
  | sectionNotMapping name => d.Misuses name ∧ (name = "discord" ∨
    name = "claude" ∧ d.SectionGives "discord" "token" ∧ d.SectionGives "discord" "user")
  | missing field => ∃ name key, (name, key) ∈ Document.requiredFields ∧
    field = name ++ "." ++ key ∧ ¬d.SectionGives name key
  | noChannels => ∀ items, ¬d.ListsItems items
  | badChannel => ∃ items, d.ListsItems items ∧ ∃ item ∈ items, ¬item.IsProfile
  | engineNotMapping => ∃ e, d.member? "engine" = some e ∧ e.root ≠ .null ∧ e.members? = none
  | badLimit key => key ∈ Document.limitKeys ∧
    ∃ e v, d.member? "engine" = some e ∧ e.member? key = some v ∧ ¬v.IsLimit
  | longNumber _ => d.HoldsLong

end Config

/-! ## What is read -/

/-- The profile of a channel is what its mapping says. -/
structure ChannelProfile.Reads (d : Document) (p : ChannelProfile) : Prop where
  name : d.GivesText "name" p.name
  skill : ∃ v s, d.member? "skill" = some v ∧ v.root = .text s ∧ p.skill = s.text
  workdir : d.GivesText "workdir" p.workdir ∨ ¬d.Gives "workdir" ∧ p.workdir = "."
  logChannel : (∃ l, p.logChannel = some l ∧ d.GivesText "log_channel" l) ∨
    ¬d.Gives "log_channel" ∧ p.logChannel = none

namespace EngineSettings

/-- A limit is what a mapping says, or the standard one. -/
def ReadsLimit (d : Document) (key : String) (standard limit : Int) : Prop :=
  (∃ v, d.member? key = some v ∧ v.root = .integer limit ∧ 0 ≤ limit) ∨
    d.member? key = none ∧ limit = standard

/-- A path is what a mapping says, or the standard one. -/
def ReadsPath (d : Document) (key standard path : String) : Prop :=
  (∃ v, d.member? key = some v ∧ v.shown? = some path) ∨ d.member? key = none ∧ path = standard

/-- The settings are what a mapping says. -/
structure ReadsMapping (d : Document) (s : EngineSettings) : Prop where
  maxDepth : ReadsLimit d "max_feedback_depth" 5 s.maxDepth
  maxTurns : ReadsLimit d "max_iterations" 10 s.maxTurns
  sessionsFile : ReadsPath d "sessions_file" ".sessions.json" s.sessionsFile
  promptFile : ReadsPath d "prompt_file" "docs/PROMPT.md" s.promptFile
  temporaryDirectory : ReadsPath d "tmp_dir" ".tmp" s.temporaryDirectory

/-- The settings are those of the section of a document, or the standard ones. -/
def Reads (d : Document) (s : EngineSettings) : Prop :=
  (∃ e, d.member? "engine" = some e ∧ e.members?.isSome ∧ ReadsMapping e s) ∨
    (∀ e, d.member? "engine" = some e → e.root = .null) ∧ s = {}

end EngineSettings

namespace Config

/-- A configuration is what a document says. -/
structure Reads (d : Document) (c : Config) : Prop where
  token : ∃ s, d.member? "discord" = some s ∧ s.GivesText "token" c.token
  operator : ∃ s, d.member? "discord" = some s ∧ s.GivesText "user" c.operator
  model : ∃ s, d.member? "claude" = some s ∧ s.GivesText "model" c.model
  channels : ∃ items, d.ListsItems items ∧ List.Forall₂ ChannelProfile.Reads items c.channels
  engine : c.engine.Reads d

/-! ## Every reader meets both sides -/

section Readers

variable {d v : Document}

/-- A value of a document is shown, unless it holds a whole number of too many digits. -/
theorem meets_textOf (hv : v.Inside d) :
    Meets (fun s => v.shown? = some s) (Problem.IsIn d) (textOf v) := by
  unfold textOf
  cases hshown : v.shown? with
  | some s => rfl
  | none => exact (Document.holdsLong_of_shown? hshown).of_inside hv

/-- A field that is given is a member with a value that counts. -/
theorem given?_eq_some_iff {key : String} :
    given? d key = some v ↔ d.member? key = some v ∧ v.isGiven = true := by
  rw [given?, Option.filter_eq_some_iff]

/-- A field is not given just where the mapping does not give it. -/
theorem given?_eq_none_iff {key : String} : given? d key = none ↔ ¬d.Gives key := by
  rw [Option.eq_none_iff_forall_ne_some]
  constructor
  · rintro h ⟨v, hv⟩
    exact h v (given?_eq_some_iff.mpr hv)
  · exact fun h v hv => h ⟨v, given?_eq_some_iff.mp hv⟩

/-- A section of credentials is a mapping, if it is given. -/
theorem meets_credentials (d : Document) (name : String) :
    Meets (fun s => s = given? d name ∧ ¬d.Misuses name)
      (fun p => p = .sectionNotMapping name ∧ d.Misuses name) (credentials d name) := by
  unfold credentials
  cases hgiven : given? d name with
  | none =>
    refine ⟨rfl, ?_⟩
    rintro ⟨s, hmember, hs, -⟩
    exact given?_eq_none_iff.mp hgiven ⟨s, hmember, hs⟩
  | some s =>
    dsimp only
    split
    · rename_i hmembers
      refine ⟨rfl, ?_⟩
      rintro ⟨s', hmember', -, hnone⟩
      have hmember := (given?_eq_some_iff.mp hgiven).1
      rw [hmember] at hmember'
      cases hmember'
      rw [hnone] at hmembers
      cases hmembers
    · rename_i hmembers
      obtain ⟨hmember, hs⟩ := given?_eq_some_iff.mp hgiven
      exact ⟨rfl, s, hmember, hs, Option.not_isSome_iff_eq_none.mp hmembers⟩

/-- A field that must be given is, or it is reported. -/
theorem meets_required (d : Document) (name key : String) :
    Meets (fun v => ∃ s, d.member? name = some s ∧ s.member? key = some v ∧ v.isGiven = true)
      (fun p => p = .missing (name ++ "." ++ key) ∧ ¬d.SectionGives name key)
      (required name (given? d name) key) := by
  unfold required
  cases hfield : (given? d name).bind fun s => given? s key with
  | some v =>
    obtain ⟨s, hs, hv⟩ := Option.bind_eq_some_iff.mp hfield
    exact ⟨s, (given?_eq_some_iff.mp hs).1, given?_eq_some_iff.mp hv⟩
  | none =>
    refine ⟨rfl, ?_⟩
    rintro ⟨s, hs, v, hv, hgiven⟩
    have hsection : given? d name = some s :=
      given?_eq_some_iff.mpr ⟨hs, Document.isGiven_of_member? hv⟩
    have hnone := Option.bind_eq_none_iff.mp hfield s hsection
    exact given?_eq_none_iff.mp hnone ⟨v, hv, hgiven⟩

/-- The text of a field is read, if it is given. -/
theorem meets_optional (hd : v.Inside d) (key : String) :
    Meets (fun text => (∃ l, text = some l ∧ v.GivesText key l) ∨ ¬v.Gives key ∧ text = none)
      (Problem.IsIn d) (optional v key) := by
  unfold optional
  cases hgiven : given? v key with
  | none => exact .inr ⟨given?_eq_none_iff.mp hgiven, rfl⟩
  | some field =>
    obtain ⟨hmember, hfield⟩ := given?_eq_some_iff.mp hgiven
    have htext := meets_textOf ((Document.inside_of_member? hmember).trans hd)
    exact htext.map fun text hshown => .inl ⟨text, rfl, field, hmember, hfield, hshown⟩

/-- A skill is a member with a text. -/
theorem skillOf?_eq_some_iff {skill : String} :
    skillOf? d = some skill ↔
      ∃ v s, d.member? "skill" = some v ∧ v.root = .text s ∧ skill = s.text := by
  unfold skillOf?
  cases d.member? "skill" with
  | none => exact ⟨nofun, nofun⟩
  | some v =>
    rw [Option.map_some]
    constructor
    · intro h
      split at h
      · rename_i s hroot
        exact ⟨v, s, rfl, Option.some.inj hroot, (Option.some.inj h).symm⟩
      · cases h
    · rintro ⟨v', s, hv, hroot, rfl⟩
      cases hv
      rw [hroot]

/-- The profile of a channel is read, or its mapping is none of a channel. -/
theorem meets_readChannel {items : List Document} (hitems : d.ListsItems items)
    (hmem : v ∈ items) :
    Meets (ChannelProfile.Reads v) (Problem.IsIn d) (readChannel v) := by
  obtain ⟨list, hlist, hlistItems, -⟩ := id hitems
  have hv : v.Inside d :=
    (Document.inside_of_items? hlistItems hmem).trans (Document.inside_of_member? hlist)
  unfold readChannel
  split
  · rename_i name skill hname hskill
    obtain ⟨hmember, hgiven⟩ := given?_eq_some_iff.mp hname
    refine (meets_textOf ((Document.inside_of_member? hmember).trans hv)).bind fun text htext => ?_
    refine (meets_optional hv "workdir").bind fun workdir hworkdir => ?_
    refine (meets_optional hv "log_channel").bind fun logChannel hlogChannel => ?_
    refine ⟨⟨name, hmember, hgiven, htext⟩, skillOf?_eq_some_iff.mp hskill, ?_, hlogChannel⟩
    rcases hworkdir with ⟨l, rfl, hl⟩ | ⟨hnot, rfl⟩
    · exact .inl hl
    · exact .inr ⟨hnot, rfl⟩
  · rename_i hnone
    refine ⟨items, hitems, v, hmem, fun hprofile => ?_⟩
    obtain ⟨name, hname⟩ := hprofile.name
    obtain ⟨skill, s, hskill, hroot⟩ := hprofile.skill
    exact hnone name s.text (given?_eq_some_iff.mpr hname)
      (skillOf?_eq_some_iff.mpr ⟨skill, s, hskill, hroot, rfl⟩)

/-- The profiles of the channels are read, one for each item of the list. -/
theorem meets_readChannels (d : Document) :
    Meets (fun profiles => ∃ items, d.ListsItems items ∧
      List.Forall₂ ChannelProfile.Reads items profiles) (Problem.IsIn d) (readChannels d) := by
  unfold readChannels
  split
  · rename_i first rest hitems
    obtain ⟨list, hlist, hlistItems⟩ := Option.bind_eq_some_iff.mp hitems
    have hlists : d.ListsItems (first :: rest) :=
      ⟨list, hlist, hlistItems, List.cons_ne_nil first rest⟩
    exact (meets_mapM fun v hv => meets_readChannel hlists hv).mono
      (fun profiles hprofiles => ⟨_, hlists, hprofiles⟩) fun p hp => hp
  · rename_i hnone
    rintro items ⟨list, hlist, hlistItems, hne⟩
    obtain ⟨first, rest, rfl⟩ := List.exists_cons_of_ne_nil hne
    exact hnone first rest (Option.bind_eq_some_iff.mpr ⟨list, hlist, hlistItems⟩)

/-- A limit is read, or its value is none. -/
theorem meets_readLimit (hengine : d.member? "engine" = some v) {key : String}
    (hkey : key ∈ Document.limitKeys) (standard : Int) :
    Meets (EngineSettings.ReadsLimit v key standard) (Problem.IsIn d)
      (readLimit v key standard) := by
  unfold readLimit
  cases hmember : v.member? key with
  | none => exact .inr ⟨hmember, rfl⟩
  | some value =>
    have hnone : (∀ n : Nat, value.root ≠ .integer n) → Problem.IsIn d (.badLimit key) := by
      intro hroot
      exact ⟨hkey, v, value, hengine, hmember, fun ⟨n, hn⟩ => hroot n hn⟩
    rw [Option.map_some]
    split
    · rename_i hnone
      cases hnone
    · rename_i n hroot
      have hroot : value.root = .integer n := Option.some.inj hroot
      split
      · refine hnone fun m hm => ?_
        rw [hroot] at hm
        cases hm
        omega
      · exact .inl ⟨value, hmember, hroot, by omega⟩
    · rename_i root hother hroot
      exact hnone fun n hn => hother n ((Option.some.inj hroot).symm.trans hn)

/-- The path of a file or a directory is read. -/
theorem meets_readPath (hd : v.Inside d) (key standard : String) :
    Meets (EngineSettings.ReadsPath v key standard) (Problem.IsIn d) (readPath v key standard) := by
  unfold readPath
  cases hmember : v.member? key with
  | none => exact .inr ⟨hmember, rfl⟩
  | some value =>
    exact (meets_textOf ((Document.inside_of_member? hmember).trans hd)).mono
      (fun path hpath => .inl ⟨value, hmember, hpath⟩) fun p hp => hp

/-- The mapping with the settings of the engine is read. -/
theorem meets_readSettings (hengine : d.member? "engine" = some v) :
    Meets (EngineSettings.ReadsMapping v) (Problem.IsIn d) (readSettings v) := by
  have hv := Document.inside_of_member? hengine
  refine (meets_readLimit hengine (by decide) _).bind fun maxDepth hmaxDepth => ?_
  refine (meets_readLimit hengine (by decide) _).bind fun maxTurns hmaxTurns => ?_
  refine (meets_readPath hv _ _).bind fun sessionsFile hsessionsFile => ?_
  refine (meets_readPath hv _ _).bind fun promptFile hpromptFile => ?_
  refine (meets_readPath hv _ _).bind fun temporaryDirectory htemporaryDirectory => ?_
  exact ⟨hmaxDepth, hmaxTurns, hsessionsFile, hpromptFile, htemporaryDirectory⟩

/-- The settings of the engine are read. -/
theorem meets_readEngine (d : Document) :
    Meets (EngineSettings.Reads d) (Problem.IsIn d) (readEngine d) := by
  unfold readEngine
  cases hengine : d.member? "engine" with
  | none =>
    refine .inr ⟨fun e he => ?_, rfl⟩
    rw [hengine] at he
    cases he
  | some e =>
    dsimp only
    split
    · rename_i hnull
      refine .inr ⟨fun e' he' => ?_, rfl⟩
      rw [hengine] at he'
      cases he'
      exact hnull
    · rename_i hnotNull
      split
      · rename_i hmembers
        exact (meets_readSettings hengine).mono
          (fun s hs => .inl ⟨e, hengine, hmembers, hs⟩) fun p hp => hp
      · rename_i hmembers
        exact ⟨e, hengine, hnotNull, Option.not_isSome_iff_eq_none.mp hmembers⟩

/-- **A configuration is what its document says, and every problem that is reported is there.** -/
theorem meets_ofDocument (d : Document) : Meets (Reads d) (Problem.IsIn d) (ofDocument d) := by
  have hrequired : ∀ name key, (name, key) ∈ Document.requiredFields →
      Meets (fun v => ∃ s, d.member? name = some s ∧ s.member? key = some v ∧ v.isGiven = true)
        (Problem.IsIn d) (required name (given? d name) key) := by
    intro name key hfield
    refine (meets_required d name key).mono (fun v hv => hv) ?_
    rintro p ⟨rfl, hnot⟩
    exact ⟨name, key, hfield, rfl, hnot⟩
  have hinside : ∀ {s v : Document} {name key : String}, d.member? name = some s →
      s.member? key = some v → v.Inside d := fun hs hv =>
    (Document.inside_of_member? hv).trans (Document.inside_of_member? hs)
  unfold ofDocument
  split
  · rename_i hnone
    exact Option.isNone_iff_eq_none.mp hnone
  · have hdiscord : Meets (fun s => s = given? d "discord") (Problem.IsIn d)
        (credentials d "discord") := by
      refine (meets_credentials d "discord").mono (fun s hs => hs.1) ?_
      rintro p ⟨rfl, hmisuses⟩
      exact ⟨hmisuses, .inl rfl⟩
    refine hdiscord.bind ?_
    rintro _ rfl
    refine (hrequired "discord" "token" (by decide)).bind fun token htoken => ?_
    refine (hrequired "discord" "user" (by decide)).bind fun operator hoperator => ?_
    obtain ⟨discord, hdiscord, htoken⟩ := htoken
    obtain ⟨discord', hdiscord', hoperator⟩ := hoperator
    -- This section is looked at only when both fields of the other one are given.
    have hclaude : Meets (fun s => s = given? d "claude") (Problem.IsIn d)
        (credentials d "claude") := by
      refine (meets_credentials d "claude").mono (fun s hs => hs.1) ?_
      rintro p ⟨rfl, hmisuses⟩
      exact ⟨hmisuses, .inr ⟨rfl, ⟨discord, hdiscord, token, htoken⟩,
        discord', hdiscord', operator, hoperator⟩⟩
    refine hclaude.bind ?_
    rintro _ rfl
    refine (hrequired "claude" "model" (by decide)).bind fun model hmodel => ?_
    obtain ⟨claude, hclaude, hmodel⟩ := hmodel
    refine (meets_readChannels d).bind fun channels hchannels => ?_
    refine (meets_textOf (hinside hdiscord htoken.1)).bind fun tokenText htokenText => ?_
    refine (meets_textOf (hinside hdiscord' hoperator.1)).bind fun operatorText hoperatorText => ?_
    refine (meets_textOf (hinside hclaude hmodel.1)).bind fun modelText hmodelText => ?_
    refine (meets_readEngine d).bind fun engine hengine => ?_
    exact ⟨⟨discord, hdiscord, token, htoken.1, htoken.2, htokenText⟩,
      ⟨discord', hdiscord', operator, hoperator.1, hoperator.2, hoperatorText⟩,
      ⟨claude, hclaude, model, hmodel.1, hmodel.2, hmodelText⟩, hchannels, hengine⟩

end Readers

end Config

end ChatRelay
