import ChatRelay.Proofs.Kinds
import ChatRelay.Proofs.Verdict

/-!
# Carrying out directives

Carrying out directives and then more directives is carrying out the first ones, and then the
others with what is still held back (`Outbox.play_append`). Since nothing is held back any more
behind a directive that does something by itself, what stands before it does not matter to what
stands after it.

The main statement is `Outbox.dispatch_compositional`.
-/

namespace ChatRelay

namespace Outbox

section Play

variable {place : Place} {p : Pending} {ds : List Directive}

/-- Directives that ask nothing are carried out, and then others with what is held back. -/
theorem play_append (hds : ∀ d ∈ ds, d.feedback? = none) (ds' : List Directive) :
    play place p (ds ++ ds') = (play place p ds).bind fun r => play place r.1 ds' := by
  induction ds generalizing p with
  | nil => rfl
  | cons d rest ih =>
    obtain ⟨hd, hrest⟩ := List.forall_mem_cons.mp hds
    rcases d.kinds place with hheld | ⟨act, hact⟩ | ⟨question, hquestion⟩
    · rw [List.cons_append, play_of_held hheld, play_of_held hheld]
      exact ih hrest
    · have hih : (fun _ : Unit => play place {} (rest ++ ds')) =
          fun _ => (play place {} rest).bind fun r => play place r.1 ds' :=
        funext fun _ => ih hrest
      rw [List.cons_append, play_of_act hact, play_of_act hact, Dialogue.bind_assoc, hih]
      exact congrArg _ (funext fun _ => (Dialogue.bind_assoc _ _ _).symm)
    · rw [hd] at hquestion
      cases hquestion

/-- A directive that says nothing makes no difference. -/
theorem play_filter (ds : List Directive) :
    play place p (ds.filter (· ≠ .nop)) = play place p ds := by
  induction ds generalizing p with
  | nil => rfl
  | cons d rest ih =>
    by_cases hnop : d = .nop
    · rw [hnop, List.filter_cons_of_neg (by decide)]
      exact ih
    · rw [List.filter_cons_of_pos (by simpa using hnop)]
      rcases d.kinds place with hheld | ⟨act, hact⟩ | ⟨question, hquestion⟩
      · rw [play_of_held hheld, play_of_held hheld]
        exact ih
      · rw [play_of_act hact, play_of_act hact, ih]
      · rw [play_of_question hquestion, play_of_question hquestion]

end Play

section Dispatch

variable {place : Place} {ds : List Directive}

/-- What is left to be done when directives were carried out: there is a question, or what is held
back is posted. -/
def conclude (place : Place) : Pending × Option Feedback → Act (Option Feedback)
  | (_, some question) => .done (some question)
  | (p, none) => (flush place p).bind fun _ => .done none

/-- The dispatch plays the directives and then concludes. -/
theorem dispatch_eq (place : Place) (ds : List Directive) :
    dispatch place ds = (play place {} ds).bind (conclude place) := by
  refine congrArg (Dialogue.bind (play place {} ds)) (funext fun r => ?_)
  obtain ⟨p, question⟩ := r
  cases question <;> rfl

/-- Directives that ask nothing are carried out, and in the end what is held back is posted. -/
theorem dispatch_of_quiet (hds : ∀ d ∈ ds, d.feedback? = none) :
    dispatch place ds =
      (play place {} ds).bind fun r => (flush place r.1).bind fun _ => .done none := by
  have hnone : ds.findSome? Directive.feedback? = none := List.findSome?_eq_none_iff.mpr hds
  rw [dispatch_eq]
  refine Dialogue.bind_congr_of_yields (yields_play place {} ds) fun r hr => ?_
  obtain ⟨p, question⟩ := r
  cases show question = none from hr.trans hnone
  rfl

/-- What stands before a directive that does something by itself, the directive, and what stands
after it are carried out one after the other, each as if it stood alone. -/
theorem dispatch_of_act (hds : ∀ d ∈ ds, d.feedback? = none) {d : Directive} {act : Act Unit}
    (hd : d.act? place = some act) (ds' : List Directive) :
    dispatch place (ds ++ d :: ds') =
      (dispatch place ds).bind fun _ => act.bind fun _ => dispatch place ds' := by
  rw [dispatch_eq, play_append hds, dispatch_of_quiet hds, Dialogue.bind_assoc, Dialogue.bind_assoc]
  refine congrArg _ (funext fun r => ?_)
  simp only [play_of_act hd, Dialogue.bind_assoc, dispatch_eq]
  rfl

/-- A question is returned when all before it was carried out, and what stands after it does not
matter. -/
theorem dispatch_of_question (hds : ∀ d ∈ ds, d.feedback? = none) {d : Directive}
    {question : Feedback} (hd : d.feedback? = some question) (ds' : List Directive) :
    dispatch place (ds ++ d :: ds') = (dispatch place ds).bind fun _ => .done (some question) := by
  rw [dispatch_eq, play_append hds, dispatch_of_quiet hds, Dialogue.bind_assoc, Dialogue.bind_assoc]
  refine congrArg _ (funext fun r => ?_)
  rw [play_of_question hd, Dialogue.bind_assoc, Dialogue.bind_assoc]
  rfl

/-- Directives that say nothing make no difference. -/
theorem dispatch_filter (place : Place) (ds : List Directive) :
    dispatch place (ds.filter (· ≠ .nop)) = dispatch place ds := by
  rw [dispatch_eq, dispatch_eq, play_filter]

/-- **Directives are carried out one after the other, and what is held back gets past no directive
that does something by itself.** Whatever the chat platform answers, the directives before such a
directive are carried out as if they stood alone, then the directive is, and then those after it
are, each from where the chat platform stands by then. A question ends the work when all before it
was carried out, whatever stands after it. Directives that say nothing make no difference. -/
theorem dispatch_compositional (hds : ∀ d ∈ ds, d.feedback? = none) (ds' : List Directive)
    {σ : Type} (answer : σ → (q : Chat.service.Request) → Chat.service.Reply q × σ) (s : σ) :
    let first := (dispatch place ds).run answer s
    (∀ d act, d.act? place = some act →
      let alone := act.run answer first.2.1
      let rest := (dispatch place ds').run answer alone.2.1
      (dispatch place (ds ++ d :: ds')).run answer s =
        (rest.1, rest.2.1, first.2.2 ++ alone.2.2 ++ rest.2.2)) ∧
    (∀ d question, d.feedback? = some question →
      (dispatch place (ds ++ d :: ds')).run answer s = (some question, first.2)) ∧
    ∀ es es' : List Directive, es.filter (· ≠ .nop) = es'.filter (· ≠ .nop) →
      (dispatch place es).run answer s = (dispatch place es').run answer s := by
  intro first
  refine ⟨fun d act hact => ?_, fun d question hquestion => ?_, fun es es' hes => ?_⟩
  · intro alone rest
    simp only [dispatch_of_act hds hact, Dialogue.run_bind, List.append_assoc, first, alone, rest]
  · simp only [dispatch_of_question hds hquestion, Dialogue.run_bind, Dialogue.run,
      List.append_nil, first]
  · rw [← dispatch_filter, hes, dispatch_filter]

/-- A chat platform that refuses the first message that is sent, and counts them. -/
def refusingFirst (sent : Nat) : (q : Chat.service.Request) → Chat.service.Reply q × Nat
  | .send _ _ _ =>
    (if sent = 0 then .error (.service "HTTPException" "refused") else .ok (some "id"), sent + 1)
  | .ownUserId => (.ok "999", sent)
  | .resolve _ => (.ok none, sent)
  | .react _ _ _ | .unreact _ _ _ | .delete _ _ => (.ok (), sent)
  | .fetch _ _ => (.error (.service "LookupError" "unknown"), sent)
  | .history _ _ _ => (.ok [], sent)

/-- A line is refused, a message is sent behind it all the same, and a question ends the work. -/
theorem dispatch_compositional_refused :
    let place := Place.of "7" "" none
    let ds : List Directive := [.text "a", .nop]
    let ds' : List Directive := [.text "b", .exec "9", .text "c"]
    let first := (dispatch place ds).run refusingFirst 0
    let alone := (sendMessage "[!discord send]" place.channelId "hi").run refusingFirst first.2.1
    let rest := (dispatch place ds').run refusingFirst alone.2.1
    (∀ d ∈ ds, d.feedback? = none) ∧
      (dispatch place (ds ++ .send "hi" :: ds')).run refusingFirst 0 =
        (rest.1, rest.2.1, first.2.2 ++ alone.2.2 ++ rest.2.2) ∧
      (dispatch place (ds ++ .exec "9" :: ds')).run refusingFirst 0 = (some (.exec "9"), first.2) ∧
      (dispatch place [.text "a"]).run refusingFirst 0 = first ∧
      rest.1 = some (.exec "9") ∧ rest.2.1 = 3 := by
  intro place ds ds'
  have hds : ∀ d ∈ ds, d.feedback? = none := by decide
  obtain ⟨hact, hquestion, hnop⟩ :=
    @dispatch_compositional place ds hds ds' Nat refusingFirst 0
  exact ⟨hds, hact (.send "hi") _ rfl, hquestion (.exec "9") _ rfl, hnop [.text "a"] ds (by decide),
    rfl, rfl⟩

end Dispatch

end Outbox

end ChatRelay
