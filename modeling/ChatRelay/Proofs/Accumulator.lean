import ChatRelay.Heredoc.Accumulator
import ChatRelay.Proofs.Response
import Mathlib.Data.List.DropRight

/-!
# An accumulator carries nothing over

Whatever was called before, a start and an end leave nothing of it behind: what an accumulator holds
is what the latest start or end, and the lines that were added since, make of a new one
(`Heredoc.Accumulator.after_eq_recalled`). So no line, no kind and no channel of one heredoc gets
into the directive of another one.

The heredoc that the reader of a text keeps goes along with an accumulator that is called line by
line (`Heredoc.Accumulator.after_view`).

The main statement is `Heredoc.Accumulator.nothing_carried_over`.
-/

namespace ChatRelay.Heredoc

open Text

namespace Accumulator

/-! ## Calls one after the other -/

/-- What is held after calls. -/
def after (a : Accumulator) (calls : List Call) : Accumulator := calls.foldl call a

/-- What calls give, an answer for each. -/
def answers (a : Accumulator) : List Call → List (Option Directive)
  | [] => []
  | c :: calls => a.answer? c :: (a.call c).answers calls

/-- Calls go on with what the calls before them have left. -/
theorem after_append (a : Accumulator) (calls calls' : List Call) :
    a.after (calls ++ calls') = (a.after calls).after calls' :=
  List.foldl_append

/-- The last call is made on what the others have left. -/
theorem after_concat (a : Accumulator) (calls : List Call) (c : Call) :
    a.after (calls ++ [c]) = (a.after calls).call c :=
  a.after_append calls [c]

/-- The answer to a call is that of what is held before it. -/
theorem answers_getElem? (a : Accumulator) (before : List Call) (c : Call) (later : List Call) :
    (a.answers (before ++ c :: later))[before.length]? = some ((a.after before).answer? c) := by
  induction before generalizing a with
  | nil => rfl
  | cons first before ih => exact ih (a.call first)

/-! ## The latest start or end -/

/-- Whether a call starts or ends a heredoc. -/
def Call.isBoundary : Call → Bool
  | .addLine _ => false
  | .start _ _ _ | .finish => true

/-- The line that a call adds. -/
def Call.line? : Call → Option String
  | .addLine line => some line
  | .start _ _ _ | .finish => none

/-- The latest start or end among calls. -/
def latest? (calls : List Call) : Option Call := (calls.filter Call.isBoundary).getLast?

/-- The calls since the latest start or end, without it. -/
def callsSince (calls : List Call) : List Call := calls.rtakeWhile fun c => !c.isBoundary

/-- The lines that were added since the latest start or end. -/
def linesSince (calls : List Call) : List String := (callsSince calls).filterMap Call.line?

/-- The latest start or end, and the calls since. -/
def recent (calls : List Call) : List Call := (latest? calls).toList ++ callsSince calls

variable {c : Call}

/-- A start or an end is the latest one when it comes last. -/
theorem latest?_concat (calls : List Call) (h : c.isBoundary = true) :
    latest? (calls ++ [c]) = some c := by
  rw [latest?, List.filter_append, List.filter_singleton, h, cond_true, List.getLast?_concat]

/-- There are no calls since a start or an end that comes last. -/
theorem callsSince_concat (calls : List Call) (h : c.isBoundary = true) :
    callsSince (calls ++ [c]) = [] := by
  rw [callsSince, List.rtakeWhile_concat_neg]
  rw [h]
  exact Bool.false_ne_true

/-- Adding a line is neither a start nor an end. -/
theorem latest?_addLine (calls : List Call) (line : String) :
    latest? (calls ++ [.addLine line]) = latest? calls := by
  rw [latest?, List.filter_append]
  exact congrArg List.getLast? (List.append_nil _)

/-- A line that is added belongs to the calls since the latest start or end. -/
theorem callsSince_addLine (calls : List Call) (line : String) :
    callsSince (calls ++ [.addLine line]) = callsSince calls ++ [.addLine line] :=
  List.rtakeWhile_concat_pos _ _ _ rfl

/-- What a new accumulator holds after a start or an end and lines. -/
def ofLatest (latest : Option Call) (lines : List String) : Accumulator :=
  match latest with
  | some (.start delimiter kind channel) => ⟨some delimiter, lines, kind, channel⟩
  | _ => { lines := lines }

/-- One more line is held, and nothing else changes. -/
theorem ofLatest_addLine (latest : Option Call) (lines : List String) (line : String) :
    (ofLatest latest lines).call (.addLine line) = ofLatest latest (lines ++ [line]) := by
  unfold ofLatest
  split <;> rfl

/-- A start and an end forget what was held. -/
theorem call_of_isBoundary (a : Accumulator) (h : c.isBoundary = true) :
    a.call c = ofLatest (some c) [] := by
  cases c with
  | start delimiter kind channel => rfl
  | finish => rfl
  | addLine line => cases h

/-- What holds of no calls, stays with one more line, and holds after every start and every end. -/
@[elab_as_elim]
theorem calls_induction {motive : List Call → Prop} (new : motive [])
    (addLine : ∀ calls line, motive calls → motive (calls ++ [.addLine line]))
    (boundary : ∀ calls c, c.isBoundary = true → motive (calls ++ [c])) (calls : List Call) :
    motive calls := by
  induction calls using List.reverseRecOn with
  | nil => exact new
  | append_singleton calls c ih =>
    cases c with
    | addLine line => exact addLine calls line ih
    | start delimiter kind channel => exact boundary calls _ rfl
    | finish => exact boundary calls _ rfl

/-- What is held is told from the latest start or end and from the lines since. -/
theorem after_eq_recalled (calls : List Call) :
    ({} : Accumulator).after calls = ofLatest (latest? calls) (linesSince calls) := by
  induction calls using calls_induction with
  | new => rfl
  | addLine calls line ih =>
    rw [after_concat, ih, ofLatest_addLine, latest?_addLine, linesSince, linesSince,
      callsSince_addLine, List.filterMap_append]
    rfl
  | boundary calls c hc =>
    rw [after_concat, call_of_isBoundary _ hc, latest?_concat calls hc, linesSince,
      callsSince_concat calls hc, List.filterMap_nil]

/-- What is held is what the latest start or end and the calls since make of a new accumulator. -/
theorem after_recent (calls : List Call) :
    ({} : Accumulator).after (recent calls) = ({} : Accumulator).after calls := by
  induction calls using calls_induction with
  | new => rfl
  | addLine calls line ih =>
    have hrecent : recent (calls ++ [.addLine line]) = recent calls ++ [.addLine line] := by
      rw [recent, latest?_addLine, callsSince_addLine, ← List.append_assoc, recent]
    rw [hrecent, after_concat, after_concat, ih]
  | boundary calls c hc =>
    have hrecent : recent (calls ++ [c]) = [c] := by
      rw [recent, latest?_concat calls hc, callsSince_concat calls hc]
      rfl
    rw [hrecent, after_concat, call_of_isBoundary _ hc]
    exact call_of_isBoundary _ hc

/-! ## Directives -/

variable {channel message : String}

/-- A start of a heredoc for a channel. -/
def IsStartFor (channel : String) (latest : Option Call) : Prop :=
  channel ≠ "" ∧ ∃ delimiter, latest = some (.start delimiter "sendto" (some channel))

/-- The directive is for a channel after a start for one, and else for the working channel. -/
theorem directive_cases (latest : Option Call) (lines : List String) :
    (∃ channel, IsStartFor channel latest ∧
      (ofLatest latest lines).directive = .sendTo channel (joinLines lines)) ∨
    ((∀ channel, ¬IsStartFor channel latest) ∧
      (ofLatest latest lines).directive = .send (joinLines lines)) := by
  have hsend : (∀ delimiter channel, latest ≠ some (.start delimiter "sendto" (some channel))) →
      ∀ channel, ¬IsStartFor channel latest :=
    fun hnone channel h => h.2.elim fun delimiter => hnone delimiter channel
  match latest with
  | none | some .finish | some (.addLine _) => exact .inr ⟨hsend fun _ _ => nofun, rfl⟩
  | some (.start delimiter kind none) => exact .inr ⟨hsend fun _ _ => nofun, rfl⟩
  | some (.start delimiter kind (some channel)) =>
    by_cases h : kind = "sendto" ∧ channel ≠ ""
    · obtain ⟨rfl, hne⟩ := h
      exact .inl ⟨channel, ⟨hne, delimiter, rfl⟩, if_pos ⟨rfl, hne⟩⟩
    · refine .inr ⟨?_, if_neg h⟩
      rintro _ ⟨hne, _, ⟨⟩⟩
      exact h ⟨rfl, hne⟩

/-- The directive is for a channel exactly where the latest start is one for that channel with a
name that is not empty, and its message is made of the lines since then. -/
theorem directive_eq_sendTo_iff (calls : List Call) :
    (({} : Accumulator).after calls).directive = .sendTo channel message ↔
      IsStartFor channel (latest? calls) ∧ message = joinLines (linesSince calls) := by
  rw [after_eq_recalled]
  rcases directive_cases (latest? calls) (linesSince calls) with ⟨channel', hstart, h⟩ | ⟨hnone, h⟩
  · rw [h, Directive.sendTo.injEq]
    constructor
    · rintro ⟨rfl, rfl⟩
      exact ⟨hstart, rfl⟩
    · rintro ⟨⟨-, _, hlatest⟩, rfl⟩
      obtain ⟨-, _, hlatest'⟩ := hstart
      cases hlatest.symm.trans hlatest'
      exact ⟨rfl, rfl⟩
  · rw [h]
    exact ⟨nofun, fun hstart => absurd hstart.1 (hnone channel)⟩

/-- The directive is for the working channel exactly where the latest start is not one for a
channel. -/
theorem directive_eq_send_iff (calls : List Call) :
    (({} : Accumulator).after calls).directive = .send message ↔
      (∀ channel, ¬IsStartFor channel (latest? calls)) ∧
        message = joinLines (linesSince calls) := by
  rw [after_eq_recalled]
  rcases directive_cases (latest? calls) (linesSince calls) with ⟨channel', hstart, h⟩ | ⟨hnone, h⟩
  · rw [h]
    exact ⟨nofun, fun hsend => absurd hstart (hsend.1 channel')⟩
  · rw [h, Directive.send.injEq, eq_comm]
    exact (and_iff_right hnone).symm

/-- A heredoc is open after a start, until the next end. -/
theorem isActive_iff (calls : List Call) :
    (({} : Accumulator).after calls).isActive = true ↔
      ∃ delimiter kind channel, latest? calls = some (.start delimiter kind channel) := by
  rw [after_eq_recalled]
  match latest? calls with
  | some (.start delimiter kind channel) => exact ⟨fun _ => ⟨_, _, _, rfl⟩, fun _ => rfl⟩
  | none | some .finish | some (.addLine _) => exact ⟨nofun, fun ⟨_, _, _, h⟩ => nomatch h⟩

/-- A kind and a channel that are held only while a heredoc is open. -/
structure Settled (a : Accumulator) : Prop where
  kind : a.delimiter = none → a.kind = "send"
  channel : a.delimiter = none → a.channel = none

/-- After any calls no kind and no channel are left over from a heredoc that has ended. -/
theorem settled_after (calls : List Call) : (({} : Accumulator).after calls).Settled := by
  rw [after_eq_recalled]
  match latest? calls with
  | some (.start delimiter kind channel) => exact ⟨nofun, nofun⟩
  | none | some .finish | some (.addLine _) => exact ⟨fun _ => rfl, fun _ => rfl⟩

end Accumulator

/-! ## The heredocs of a text -/

/-- The kind that a name names. -/
def Kind.ofName (name : String) : Kind := if name = "sendto" then .sendTo else .send

/-- The name of a kind. -/
def Kind.name : Kind → String
  | .send => "send"
  | .sendTo => "sendto"

/-- A kind is named by its own name. -/
theorem Kind.ofName_name (kind : Kind) : ofName kind.name = kind := by
  cases kind <;> decide

/-- What the reader of a text keeps of an accumulator: the three things that an opening line says,
together while a heredoc is open, and the lines with the last one first. -/
def Accumulator.view (a : Accumulator) : Heredoc where
  opener := a.delimiter.map fun delimiter => ⟨delimiter, .ofName a.kind, a.channel⟩
  held := a.lines.reverse

/-- The call that a line of a text is for, if it is for one. -/
def callOf? (h : Heredoc) (line : String) : Option Accumulator.Call :=
  match h.opener with
  | some o => some (if line = o.delimiter then .finish else .addLine line)
  | none =>
    match Line.read line with
    | .ok (.opens o) => some (.start o.delimiter o.kind.name o.channel)
    | _ => none

/-- The calls that lines are for. -/
def callsOf (h : Heredoc) : List String → List Accumulator.Call
  | [] => []
  | line :: rest => (h.callOf? line).toList ++ (h.pass line).callsOf rest

/-- What a line is for, what it does to the reader, and what it gives: it ends a heredoc, it is
held, it opens a heredoc, or else it has nothing to do with one. -/
theorem callOf?_cases (h : Heredoc) (line : String) :
    (h.callOf? line = some .finish ∧ h.pass line = closed ∧
      Response.given h line = .ok [h.directive]) ∨
    (h.callOf? line = some (.addLine line) ∧ h.pass line = h.addLine line ∧
      Response.given h line = .ok []) ∨
    (∃ o : Opener, h.callOf? line = some (.start o.delimiter o.kind.name o.channel) ∧
      h.pass line = h.start o ∧ Response.given h line = .ok []) ∨
    (h.callOf? line = none ∧ h.pass line = h) := by
  unfold callOf? pass Response.given
  cases h.opener with
  | some o =>
    dsimp only
    by_cases hline : line = o.delimiter
    · rw [if_pos hline, if_pos hline, if_pos hline]
      exact .inl ⟨rfl, rfl, rfl⟩
    · rw [if_neg hline, if_neg hline, if_neg hline]
      exact .inr (.inl ⟨rfl, rfl, rfl⟩)
  | none =>
    cases Line.read line with
    | error refusal => exact .inr (.inr (.inr ⟨rfl, rfl⟩))
    | ok meaning =>
      cases meaning with
      | directive d => exact .inr (.inr (.inr ⟨rfl, rfl⟩))
      | opens o => exact .inr (.inr (.inl ⟨o, rfl, rfl, rfl⟩))

namespace Accumulator

variable (a : Accumulator)

/-- Seen by the reader, a start opens the heredoc. -/
theorem view_start (o : Opener) :
    (a.call (.start o.delimiter o.kind.name o.channel)).view = a.view.start o := by
  simp only [call, view, start, Option.map_some, Kind.ofName_name, List.reverse_nil]

/-- Seen by the reader, a line that is added is the last one held. -/
theorem view_addLine (line : String) : (a.call (.addLine line)).view = a.view.addLine line := by
  simp only [call, view, addLine, List.reverse_append, List.reverse_singleton,
    List.singleton_append]

/-- Seen by the reader, an end leaves nothing. -/
theorem view_finish : (a.call .finish).view = closed := rfl

/-- The reader and the accumulator have the same directive. -/
theorem directive_view {a : Accumulator} (h : a.Settled) : a.view.directive = a.directive := by
  obtain ⟨delimiter, lines, kind, channel⟩ := a
  cases delimiter with
  | none =>
    obtain rfl : kind = "send" := h.kind rfl
    obtain rfl : channel = none := h.channel rfl
    simp only [view, Heredoc.directive, Option.map_none, message, List.reverse_reverse, directive]
  | some delimiter =>
    simp only [view, Heredoc.directive, Option.map_some, message, List.reverse_reverse, directive,
      Opener.directive]
    by_cases hkind : kind = "sendto"
    · rw [Kind.ofName, if_pos hkind]
      cases channel with
      | none => rfl
      | some channel => simp only [hkind, true_and, ne_eq, ite_not]
    · rw [Kind.ofName, if_neg hkind]
      cases channel with
      | none => rfl
      | some channel => simp only [hkind, false_and, if_false]

/-- A line does to the reader what its call does to the accumulator. -/
theorem pass_view (line : String) :
    a.view.pass line = (a.after (a.view.callOf? line).toList).view := by
  rcases callOf?_cases a.view line with ⟨hcall, hpass, -⟩ | ⟨hcall, hpass, -⟩ |
    ⟨o, hcall, hpass, -⟩ | ⟨hcall, hpass⟩
  · rw [hpass, hcall]
    exact a.view_finish.symm
  · rw [hpass, hcall]
    exact (a.view_addLine line).symm
  · rw [hpass, hcall]
    exact (a.view_start o).symm
  · rw [hpass, hcall]
    rfl

/-- Lines do to the reader what their calls do to the accumulator. -/
theorem after_view (ls : List String) : a.view.after ls = (a.after (a.view.callsOf ls)).view := by
  induction ls generalizing a with
  | nil => rfl
  | cons line rest ih =>
    have hcons : a.view.after (line :: rest) = (a.view.pass line).after rest := rfl
    rw [hcons, callsOf, after_append, pass_view, ih]

/-- A line that is for a call gives what the accumulator answers. -/
theorem given_view {a : Accumulator} (h : a.Settled) {line : String} {c : Call}
    (hc : a.view.callOf? line = some c) :
    Response.given a.view line = .ok (a.answer? c).toList := by
  rcases callOf?_cases a.view line with ⟨hcall, -, hgiven⟩ | ⟨hcall, -, hgiven⟩ |
    ⟨o, hcall, -, hgiven⟩ | ⟨hcall, -⟩
  · cases hc.symm.trans hcall
    rw [hgiven, directive_view h]
    rfl
  · cases hc.symm.trans hcall
    exact hgiven
  · cases hc.symm.trans hcall
    exact hgiven
  · cases hc.symm.trans hcall

/-- What is still open at the end of a text gives the directive of the accumulator. -/
theorem flush_view {a : Accumulator} (h : a.Settled) :
    a.view.flush = if a.isActive then [a.directive] else [] := by
  rw [← directive_view h]
  cases hdelimiter : a.delimiter <;>
    simp only [flush, view, isActive, hdelimiter] <;> rfl

/-- **An accumulator carries nothing over.** Whatever was called before, what it holds is what the
latest start or end and the calls since make of a new one. The directive that an end gives is for a
channel if and only if that latest call was a start of the kind `sendto` with this channel, which is
not empty, and else it is for the working channel; its message is the lines that were added since. A
heredoc is open if and only if that latest call was a start. The reader of a text keeps what an
accumulator holds that is called line by line, and gives what it answers. -/
theorem nothing_carried_over (calls later : List Call) :
    let held := ({} : Accumulator).after calls
    held = ({} : Accumulator).after (recent calls) ∧
    (({} : Accumulator).answers (calls ++ .finish :: later))[calls.length]? =
      some (some held.directive) ∧
    (∀ channel message, held.directive = .sendTo channel message ↔
      IsStartFor channel (latest? calls) ∧ message = joinLines (linesSince calls)) ∧
    (∀ message, held.directive = .send message ↔
      (∀ channel, ¬IsStartFor channel (latest? calls)) ∧ message = joinLines (linesSince calls)) ∧
    (held.isActive = true ↔
      ∃ delimiter kind channel, latest? calls = some (.start delimiter kind channel)) ∧
    ∀ ls, let read := ({} : Accumulator).after (closed.callsOf ls)
      closed.after ls = read.view ∧
      (∀ line c, (closed.after ls).callOf? line = some c →
        Response.given (closed.after ls) line = .ok (read.answer? c).toList) ∧
      (closed.after ls).flush = if read.isActive then [read.directive] else [] := by
  refine ⟨(after_recent calls).symm, answers_getElem? _ calls .finish later,
    fun _ _ => directive_eq_sendTo_iff calls, fun _ => directive_eq_send_iff calls,
    isActive_iff calls, fun ls => ?_⟩
  have hview : closed.after ls = (({} : Accumulator).after (closed.callsOf ls)).view :=
    after_view {} ls
  have hsettled := settled_after (closed.callsOf ls)
  refine ⟨hview, fun line c hc => ?_, ?_⟩
  · rw [hview] at hc ⊢
    exact given_view hsettled hc
  · rw [hview]
    exact flush_view hsettled

/-- A start interrupts another one, and nothing of either is left when a line comes too late. -/
example : ({} : Accumulator).answers [.start "A" "sendto" (some "c"), .addLine "x",
    .start "B" "send" none, .addLine "y", .finish, .addLine "late", .finish] =
      [none, none, none, none, some (.send "y"), none, some (.send "late")] := by
  decide

end Accumulator

end ChatRelay.Heredoc
