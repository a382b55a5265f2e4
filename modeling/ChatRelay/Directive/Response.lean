import ChatRelay.Directive.Line

/-!
# The directives of an agent's text

The text is read line by line. While a heredoc is open its lines are held until the delimiter
stands alone on a line; a heredoc that is still open where the text ends is ended there, so that
nothing that was written is lost.
-/

namespace ChatRelay

/-- The outcome of reading a text: what was logged on the way, and the directives or the reason
why reading stopped. -/
structure Response where
  notes : List String
  directives : Except Text.Numeral.Refusal (List Directive)

namespace Response

/-- The outcome of reading nothing. -/
def empty : Response := ⟨[], .ok []⟩

/-- The outcome with log lines put before it. -/
def withNotes (notes : List String) (r : Response) : Response :=
  { r with notes := notes ++ r.notes }

/-- The outcome with one directive put before it. -/
def cons (d : Directive) (r : Response) : Response :=
  { r with directives := r.directives.map (d :: ·) }

/-- Reads lines, with a heredoc that is perhaps open. -/
def ofLines (h : Heredoc) : List String → Response
  | [] =>
    match h.opener with
    | none => empty
    | some o =>
      (empty.cons h.directive).withNotes
        [s!"[Parser] heredoc {o.delimiter} not closed; sending collected lines"]
  | line :: rest =>
    match h.opener with
    | some o =>
      if line = o.delimiter then (ofLines .closed rest).cons h.directive
      else ofLines (h.addLine line) rest
    | none =>
      match Line.read line with
      | .error refusal => ⟨[], .error refusal⟩
      | .ok (.directive d) => ((ofLines h rest).cons d).withNotes (Line.notes line)
      | .ok (.opens o) => (ofLines (h.start o) rest).withNotes (Line.notes line)

/-- Reads a text. -/
def read (text : String) : Response := ofLines .closed (Text.splitLines text)

end Response

end ChatRelay
