import Registrar.Json.Escape
import Registrar.Report.Basic

/-!
# Reports for programs

A report in JSON is one array with an object for each diagnostic. The objects can be written one at
a time; then it must be known whether one was written before, because commas stand between them.
-/

namespace Registrar.Report.JsonArray

/-- Lines of which all but the last end in a comma. -/
def commaLines : List String → String
  | [] => ""
  | [item] => item ++ "\n"
  | item :: rest => item ++ ",\n" ++ commaLines rest

/-- A member of an object: a list of values, each on lines of its own. -/
def listMember (key : String) (items : List String) : String :=
  "    \"" ++ key ++ "\": [\n" ++ commaLines items ++ "    ]"

def stringsMember (key : String) (items : List String) : String :=
  listMember key (items.map fun item => "      " ++ Json.quote item)

/-- The place of a class. -/
def locationMember : Option Location → String
  | some location =>
    "    \"location\": \x7b \"file\": " ++ Json.quote location.file ++ ", \"line\": " ++
      toString location.line.toNat ++ ", \"column\": " ++ toString location.column.toNat ++ " \x7d"
  | none => "    \"location\": null"

def labelObject (label : Label) : String :=
  "      \x7b\n" ++
  "        \"file\": " ++ Json.quote label.location.file ++ ",\n" ++
  "        \"line\": " ++ toString label.location.line.toNat ++ ",\n" ++
  "        \"column\": " ++ toString label.location.column.toNat ++ ",\n" ++
  "        \"message\": " ++ Json.quote label.message ++ "\n" ++
  "      \x7d"

def object (d : Diagnostic) : String :=
  "  \x7b\n" ++
  "    \"code\": \"" ++ d.code.identifier ++ "\",\n" ++
  "    \"name\": \"" ++ d.code.ruleName ++ "\",\n" ++
  "    \"severity\": \"" ++ d.severity.word ++ "\",\n" ++
  "    \"message\": " ++ Json.quote d.message ++ ",\n" ++
  locationMember d.location ++ ",\n" ++
  stringsMember "arguments" d.args ++ ",\n" ++
  listMember "labels" (d.labels.map labelObject) ++ ",\n" ++
  stringsMember "notes" d.notes ++ ",\n" ++
  stringsMember "suggestions" d.suggestions ++ "\n" ++
  "  \x7d"

/-- The array as far as it is written. -/
structure Progress where
  /-- An object was written. -/
  hasItems : Bool := false
deriving DecidableEq, Repr

/-- What opens the array. -/
def opening : String := "[\n"

/-- What closes the array. -/
def closing : String := "\n]\n"

/-- One more object. -/
def item (progress : Progress) (d : Diagnostic) : String :=
  (if progress.hasItems then ",\n" else "") ++ object d

/-- More objects. -/
def items (progress : Progress) : List Diagnostic → String
  | [] => ""
  | d :: rest => item progress d ++ items ⟨true⟩ rest

/-- One piece of a report. Programs count for themselves, so a summary is nothing here. -/
def write (progress : Progress) : Event → Progress × String
  | .diagnostic d => (⟨true⟩, item progress d)
  | .diagnostics ds => (⟨progress.hasItems || !ds.isEmpty⟩, items progress ds)
  | .summary .. => (progress, "")
  | .flush => (progress, "")

/-- The whole array. -/
def report (ds : List Diagnostic) : String := opening ++ items {} ds ++ closing

end Registrar.Report.JsonArray
