import Registrar.Report.Basic

/-!
# Reports for people

A report on a terminal is a sequence of spans, some of which have a style. Colour comes in only
where a span is written out: with colours, a styled span stands between two escape sequences.

* `blocks_append` : the text of several diagnostics is that of each, one after the other.
-/

namespace Registrar.Report.Terminal

/-- How a span of text stands out. -/
inductive Style where
  | error
  | warning
  | note
  | help
  | strong
  | secondary
deriving DecidableEq, Repr

/-- The escape sequence that starts a style: bold, and all but one in a colour. -/
def Style.start : Style → String
  | error => "\x1b[1;31m"
  | warning => "\x1b[1;33m"
  | note => "\x1b[1;36m"
  | help => "\x1b[1;32m"
  | strong => "\x1b[1m"
  | secondary => "\x1b[1;34m"

/-- The escape sequence that ends every style. -/
def styleEnd : String := "\x1b[0m"

/-- Some text, in a style or plain. -/
structure Span where
  text : String
  style : Option Style := none
deriving DecidableEq, Repr

namespace Span

/-- Text in no style. -/
def plain (text : String) : Span := { text }

def styled (style : Style) (text : String) : Span := { text, style := some style }

/-- A span as written with or without colours. -/
def render (colors : Bool) (span : Span) : String :=
  match span.style, colors with
  | some style, true => style.start ++ span.text ++ styleEnd
  | _, _ => span.text

end Span

/-- Spans as written with or without colours. -/
def render (colors : Bool) (spans : List Span) : String :=
  String.join (spans.map (Span.render colors))

def severityStyle : Severity → Style
  | .error => .error
  | .warning => .warning
  | .note => .note
  | .help => .help

/-- A remark below a diagnostic. -/
def remark (kind : String) (style : Style) (text : String) : List Span :=
  [.plain "  = ", .styled style kind, .plain (": " ++ text ++ "\n")]

/-- A diagnostic and the empty line after it. -/
def block (d : Diagnostic) : List Span :=
  [.styled (severityStyle d.severity) d.severity.word,
    .styled .strong ("[" ++ d.code.identifier ++ "]"),
    .plain (": " ++ d.message ++ "\n")] ++
  d.location.toList.flatMap (fun place =>
    [.plain "  --> ", .styled .strong place.text, .plain "\n"]) ++
  d.labels.flatMap (fun label =>
    [.plain ("      " ++ label.location.text ++ ": "), .styled .secondary label.message,
      .plain "\n"]) ++
  d.notes.flatMap (remark "note" .strong) ++
  d.suggestions.flatMap (remark "help" .help) ++
  [.plain "\n"]

/-- A count with its noun. -/
def warningsEmitted (warnings : Nat) : String :=
  toString warnings ++ " warning" ++ (if warnings = 1 then "" else "s") ++ " emitted"

/-- One line on how many errors and warnings there were, if there were any. -/
def summary (errors warnings : Nat) : List Span :=
  if errors = 0 then
    if warnings = 0 then []
    else [.styled .warning "warning", .plain (": " ++ warningsEmitted warnings ++ "\n")]
  else
    let previous := if errors = 1 then "previous error" else toString errors ++ " previous errors"
    let rest := if warnings = 0 then "" else "; " ++ warningsEmitted warnings
    [.styled .error "error", .plain (": aborting due to " ++ previous ++ rest ++ "\n")]

/-- The spans of one piece of a report. -/
def spans : Event → List Span
  | .diagnostic d => block d
  | .diagnostics ds => ds.flatMap block
  | .summary errors warnings => summary errors warnings
  | .flush => []

/-- One piece of a report as written with or without colours. -/
def write (colors : Bool) (event : Event) : String := render colors (spans event)

/-- The diagnostics one after the other. -/
def blocks (colors : Bool) (ds : List Diagnostic) : String := write colors (.diagnostics ds)

theorem render_append (colors : Bool) (a b : List Span) :
    render colors (a ++ b) = render colors a ++ render colors b := by
  simp [render, String.join_append]

/-- Diagnostics shown together come to the same as those shown one after the other. -/
theorem blocks_append (colors : Bool) (a b : List Diagnostic) :
    blocks colors (a ++ b) = blocks colors a ++ blocks colors b := by
  simp [blocks, write, spans, render_append]

end Registrar.Report.Terminal
