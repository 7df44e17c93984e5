import Registrar.Diagnostic.Basic

/-!
# Reports

Diagnostics are reported to people, on a terminal, or to programs, as JSON. Either way a report is
written piece by piece; an `Event` is one piece.
-/

namespace Registrar.Report

/-- Whom a report is for. -/
inductive Format where
  /-- Text for people. -/
  | human
  /-- An array of objects for programs. -/
  | json
deriving DecidableEq, Repr, Inhabited

/-- When text for people is coloured. -/
inductive ColorMode where
  /-- When it goes to a terminal. -/
  | auto
  | always
  | never
deriving DecidableEq, Repr, Inhabited

/-- Whether text is coloured, given that it goes to a terminal or not. -/
def ColorMode.isOn (mode : ColorMode) (isTerminal : Bool) : Bool :=
  match mode with
  | auto => isTerminal
  | always => true
  | never => false

/-- One piece of a report. -/
inductive Event where
  /-- A diagnostic. -/
  | diagnostic (d : Diagnostic)
  /-- Several diagnostics, in order. -/
  | diagnostics (ds : List Diagnostic)
  /-- How many errors and warnings there were. -/
  | summary (errors warnings : Nat)
  /-- Everything so far is to reach the reader. -/
  | flush
deriving Repr

end Registrar.Report
