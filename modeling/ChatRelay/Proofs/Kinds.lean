import ChatRelay.Outbox

/-!
# The kinds of directives

A directive is held back, or it does something by itself, or it asks a question; there is no fourth
kind (`Directive.kinds`), and `Outbox.play` does one thing for each (`play_of_held`, `play_of_act`,
`play_of_question`). What holds of each of these three things holds of carrying out directives.
-/

namespace ChatRelay

namespace Directive

/-- Whether a directive is held back. A directive that says nothing is held back as well. -/
def isHeld : Directive → Bool
  | text _ | media _ | reactions _ | nop => true
  | _ => false

/-- What a directive does by itself, if it is neither held back nor a question. -/
def act? (place : Place) : Directive → Option (Outbox.Act Unit)
  | reaction messageId emoji remove => some (Outbox.reaction place messageId emoji remove)
  | delete messageId => some (Outbox.delete place messageId)
  | send message => some (Outbox.sendMessage "[!discord send]" place.channelId message)
  | sendTo channel message => some (Outbox.sendTo channel message)
  | _ => none

/-- Every directive is held back, does something by itself, or asks a question. -/
theorem kinds (place : Place) (d : Directive) :
    d.isHeld = true ∨ (∃ act, d.act? place = some act) ∨
      ∃ question, d.feedback? = some question := by
  cases d with
  | text _ | media _ | reactions _ | nop => exact .inl rfl
  | reaction _ _ _ | delete _ | send _ | sendTo _ _ => exact .inr (.inl ⟨_, rfl⟩)
  | history _ | exec _ => exact .inr (.inr ⟨_, rfl⟩)

/-- What is held back asks no question. -/
theorem feedback?_of_held {d : Directive} (h : d.isHeld = true) : d.feedback? = none := by
  cases d with
  | history _ | exec _ => cases h
  | _ => rfl

/-- What does something by itself is not held back. -/
theorem not_held_of_act {place : Place} {d : Directive} {act : Outbox.Act Unit}
    (h : d.act? place = some act) : d.isHeld = false := by
  cases d with
  | text _ | media _ | reactions _ | nop => cases h
  | _ => rfl

/-- A question is not held back. -/
theorem not_held_of_question {d : Directive} {question : Feedback}
    (h : d.feedback? = some question) : d.isHeld = false := by
  obtain rfl := feedback?_eq_some_iff.mp h
  cases question <;> rfl

/-- What does something by itself asks no question. -/
theorem feedback?_of_act {place : Place} {d : Directive} {act : Outbox.Act Unit}
    (h : d.act? place = some act) : d.feedback? = none := by
  cases d with
  | history _ | exec _ => cases h
  | _ => rfl

end Directive

/-- What is held back with the output of one more directive. -/
def Pending.hold (p : Pending) : Directive → Pending
  | .text content => { p with lines := p.lines ++ [content] }
  | .media path => { p with files := p.files ++ [path] }
  | .reactions emojis => { p with emojis := p.emojis ++ emojis }
  | _ => p

namespace Outbox

section Play

variable {place : Place} {p : Pending} {d : Directive} {ds : List Directive}

/-- A directive that is held back adds to what is posted later. -/
theorem play_of_held (h : d.isHeld = true) : play place p (d :: ds) = play place (p.hold d) ds := by
  cases d with
  | text _ | media _ | reactions _ | nop => rfl
  | reaction _ _ _ | delete _ | send _ | sendTo _ _ | history _ | exec _ => cases h

/-- A directive that does something does it when everything before it was posted, and holds nothing
back. -/
theorem play_of_act {act : Act Unit} (h : d.act? place = some act) :
    play place p (d :: ds) =
      (flush place p).bind fun _ => act.bind fun _ => play place {} ds := by
  cases d with
  | reaction _ _ _ | delete _ | send _ | sendTo _ _ =>
    cases h
    rfl
  | text _ | media _ | reactions _ | nop | history _ | exec _ => cases h

/-- A question ends the dispatch when everything before it was posted. -/
theorem play_of_question {question : Feedback} (h : d.feedback? = some question) :
    play place p (d :: ds) = (flush place p).bind fun _ => .done ({}, some question) := by
  obtain rfl := Directive.feedback?_eq_some_iff.mp h
  cases question <;> rfl

end Play

end Outbox

end ChatRelay
