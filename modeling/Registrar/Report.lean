import Registrar.Report.JsonArray
import Registrar.Report.Terminal

/-!
# The report of a pass
-/

namespace Registrar.Report

/-- The report for people: each diagnostic, then how many errors and warnings there were. -/
def human (colors : Bool) (ds : List Diagnostic) : String :=
  Terminal.write colors (.diagnostics ds) ++
    Terminal.write colors (.summary (ds.countP (·.isError)) (ds.countP (·.isWarning)))

/-- All diagnostics of a pass in a format; the colour mode matters to people only. -/
def text (format : Format) (mode : ColorMode) (isTerminal : Bool) (ds : List Diagnostic) : String :=
  match format with
  | .human => human (mode.isOn isTerminal) ds
  | .json => JsonArray.report ds

end Registrar.Report
