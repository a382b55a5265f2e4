import ChatRelay.Proofs.Response
import ChatRelay.Proofs.Verdict

/-!
# Up to the first question

A line asks a question by itself, and never in a heredoc, so a text that asks one has a first line
that does. `Response.lead?` is the text up to there. What is written behind it changes nothing of
the directives before the question (`Response.directives_of_lead_eq`).
-/

namespace ChatRelay

open Text (splitLines)

namespace Heredoc

/-- The question that a line asks. A line of an open heredoc asks none. -/
def question? (h : Heredoc) (line : String) : Option Feedback :=
  match h.opener, Line.read line with
  | none, .ok (.directive d) => d.feedback?
  | _, _ => none

/-- A heredoc is a message and no question. -/
theorem feedback?_directive (h : Heredoc) : h.directive.feedback? = none := by
  unfold directive
  split
  · unfold Opener.directive
    split
    · split <;> rfl
    · rfl
  · rfl

/-- What is left of a heredoc at the end asks no question. -/
theorem feedback?_flush (h : Heredoc) : ∀ d ∈ h.flush, d.feedback? = none := by
  unfold flush
  split
  · exact List.forall_mem_singleton.mpr h.feedback?_directive
  · exact nofun

end Heredoc

namespace Response

/-- The lines up to the first one that asks a question, where one does. -/
def lead? (h : Heredoc) : List String → Option (List String)
  | [] => none
  | line :: rest =>
    match h.question? line with
    | some _ => some [line]
    | none => (lead? (h.pass line) rest).map (line :: ·)

section Lines

variable {h : Heredoc} {line : String} {ls : List String} {ds : List Directive}

/-- A line that asks a question gives this one directive. -/
theorem given_of_question {question : Feedback} (hq : h.question? line = some question) :
    ∃ d, given h line = .ok [d] ∧ d.feedback? = some question := by
  unfold Heredoc.question? at hq
  split at hq
  · rename_i d hopener hread
    refine ⟨d, ?_, hq⟩
    simp only [given, hopener, hread, Except.map]
  · cases hq

/-- A line that asks no question gives no directive that does. -/
theorem quiet_of_no_question (hq : h.question? line = none) (hgiven : given h line = .ok ds) :
    ∀ d ∈ ds, d.feedback? = none := by
  unfold Heredoc.question? at hq
  unfold given at hgiven
  cases hopener : h.opener with
  | some o =>
    simp only [hopener] at hgiven
    cases hgiven
    split
    · exact List.forall_mem_singleton.mpr h.feedback?_directive
    · exact nofun
  | none =>
    simp only [hopener] at hgiven hq
    cases hread : Line.read line with
    | error refusal =>
      rw [hread] at hgiven
      cases hgiven
    | ok meaning =>
      rw [hread] at hgiven hq
      cases meaning with
      | opens o =>
        cases hgiven
        exact nofun
      | directive d =>
        cases hgiven
        exact List.forall_mem_singleton.mpr hq

/-- A text is read where its first line is and the rest behind it is. -/
theorem scan_cons_eq_ok {rest : List String} (hscan : scan h (line :: rest) = .ok ds) :
    ∃ now later, given h line = .ok now ∧ scan (h.pass line) rest = .ok later ∧
      ds = now ++ later := by
  rw [scan] at hscan
  cases hgiven : given h line with
  | error refusal =>
    rw [hgiven] at hscan
    cases hscan
  | ok now =>
    cases hlater : scan (h.pass line) rest with
    | error refusal =>
      rw [hgiven, Except.bind, hlater] at hscan
      cases hscan
    | ok later =>
      rw [hgiven, Except.bind, hlater] at hscan
      cases hscan
      exact ⟨now, later, rfl, rfl, rfl⟩

/-- The lines up to the first question give directives of which only the last one asks, and the
other lines give the directives behind it. -/
theorem scan_lead {lead : List String} (hscan : scan h ls = .ok ds)
    (hlead : lead? h ls = some lead) :
    ∃ before d question rest, ds = before ++ d :: rest ∧ scan h lead = .ok (before ++ [d]) ∧
      (∀ d ∈ before, d.feedback? = none) ∧ d.feedback? = some question := by
  induction ls generalizing h ds lead with
  | nil => cases hlead
  | cons line rest ih =>
    obtain ⟨now, later, hnow, hlater, rfl⟩ := scan_cons_eq_ok hscan
    rw [lead?] at hlead
    cases hq : h.question? line with
    | some question =>
      rw [hq] at hlead
      cases hlead
      obtain ⟨d, hgiven, hd⟩ := given_of_question hq
      cases hnow.symm.trans hgiven
      refine ⟨[], d, question, later, rfl, ?_, nofun, hd⟩
      rw [scan, hgiven]
      rfl
    | none =>
      rw [hq] at hlead
      obtain ⟨lead', hlead', rfl⟩ := Option.map_eq_some_iff.mp hlead
      obtain ⟨before, d, question, behind, rfl, hscan', hquiet, hd⟩ := ih hlater hlead'
      refine ⟨now ++ before, d, question, behind, ?_, ?_, ?_, hd⟩
      · rw [List.append_assoc]
      · rw [scan, hnow, Except.bind, hscan', Except.map, List.append_assoc]
      · exact List.forall_mem_append.mpr ⟨quiet_of_no_question hq hnow, hquiet⟩

/-- Lines of which none asks a question give no directive that does. -/
theorem quiet_of_no_lead (hscan : scan h ls = .ok ds) (hlead : lead? h ls = none) :
    ∀ d ∈ ds, d.feedback? = none := by
  induction ls generalizing h ds with
  | nil =>
    cases hscan
    exact nofun
  | cons line rest ih =>
    obtain ⟨now, later, hnow, hlater, rfl⟩ := scan_cons_eq_ok hscan
    rw [lead?] at hlead
    cases hq : h.question? line with
    | some question =>
      rw [hq] at hlead
      cases hlead
    | none =>
      rw [hq] at hlead
      have hrest : lead? (h.pass line) rest = none := Option.map_eq_none_iff.mp hlead
      exact List.forall_mem_append.mpr ⟨quiet_of_no_question hq hnow, ih hlater hrest⟩

end Lines

section Text

variable {text text' : String} {question question' : Feedback}

/-- A text that asks a question is read up to the line that asks it, and the directive of that line
is the first one that asks. -/
theorem directives_of_question (hq : (read text).question? = some question) :
    ∃ lead before d rest, lead? .closed (splitLines text) = some lead ∧
      scan .closed lead = .ok (before ++ [d]) ∧
      (read text).directives = .ok (before ++ d :: rest) ∧
      (∀ d ∈ before, d.feedback? = none) ∧ d.feedback? = some question := by
  have hread : (read text).directives = (scan .closed (splitLines text)).map
      (· ++ (Heredoc.closed.after (splitLines text)).flush) := directives_ofLines _ _
  have hopen := (Heredoc.closed.after (splitLines text)).feedback?_flush
  generalize (Heredoc.closed.after (splitLines text)).flush = flush at hread hopen
  cases hscan : scan .closed (splitLines text) with
  | error refusal =>
    rw [question?, hread, hscan] at hq
    cases hq
  | ok ds =>
    rw [hscan, Except.map] at hread
    have hfirst : (ds ++ flush).findSome? Directive.feedback? = some question := by
      rw [question?, hread] at hq
      exact hq
    cases hlead : lead? .closed (splitLines text) with
    | none =>
      have hquiet : ∀ d ∈ ds ++ flush, d.feedback? = none :=
        List.forall_mem_append.mpr ⟨quiet_of_no_lead hscan hlead, hopen⟩
      rw [List.findSome?_eq_none_iff.mpr hquiet] at hfirst
      cases hfirst
    | some lead =>
      obtain ⟨before, d, question', rest, rfl, hscan', hquiet, hd⟩ := scan_lead hscan hlead
      have hnone : before.findSome? Directive.feedback? = none :=
        List.findSome?_eq_none_iff.mpr hquiet
      rw [List.append_assoc, List.findSome?_append, hnone, Option.none_or, List.cons_append,
        List.findSome?_cons, hd] at hfirst
      cases hfirst
      refine ⟨lead, before, d, rest ++ flush, rfl, hscan', ?_, hquiet, hd⟩
      rw [hread, List.append_assoc, List.cons_append]

/-- Texts that are the same up to the first question have the same directives up to there. -/
theorem directives_of_lead_eq (hq : (read text).question? = some question)
    (hq' : (read text').question? = some question')
    (hlead : lead? .closed (splitLines text) = lead? .closed (splitLines text')) :
    ∃ before d rest rest', (read text).directives = .ok (before ++ d :: rest) ∧
      (read text').directives = .ok (before ++ d :: rest') ∧
      (∀ d ∈ before, d.feedback? = none) ∧ d.feedback? = some question := by
  obtain ⟨lead, before, d, rest, hfound, hscan, hread, hquiet, hd⟩ := directives_of_question hq
  obtain ⟨lead', before', d', rest', hfound', hscan', hread', -, -⟩ := directives_of_question hq'
  rw [hfound, hfound'] at hlead
  cases hlead
  have hsame : before ++ [d] = before' ++ [d'] := Except.ok.inj (hscan.symm.trans hscan')
  obtain ⟨rfl, hlast⟩ := List.append_inj' hsame rfl
  cases hlast
  exact ⟨before, d, rest, rest', hread, hread', hquiet, hd⟩

end Text

end Response

end ChatRelay
