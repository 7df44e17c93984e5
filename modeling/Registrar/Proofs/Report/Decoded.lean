import Registrar.Proofs.Json.Written
import Registrar.Report

/-!
# What a report says to a program

A report in JSON is one text that stands for one value: the list of its diagnostics, each an object
with all there is to say about it. So a reader that goes by the grammar gets back every string of a
diagnostic, whatever characters it is made of.

* `Diagnostic.value` : the object for a diagnostic.
* `writes_object` : what is written for a diagnostic.
* `isText_text_iff` : what a report stands for.
-/

namespace Registrar

open Json (Value Writes WritesMember WritesToken IsPlain)

def Location.value (location : Location) : Value :=
  .object [("file", .string location.file), ("line", .number location.line.toNat),
    ("column", .number location.column.toNat)]

def Label.value (label : Label) : Value :=
  .object [("file", .string label.location.file), ("line", .number label.location.line.toNat),
    ("column", .number label.location.column.toNat), ("message", .string label.message)]

/-- All there is to say about a diagnostic. -/
def Diagnostic.value (d : Diagnostic) : Value :=
  .object
    [("code", .string d.code.identifier), ("name", .string d.code.ruleName),
      ("severity", .string d.severity.word), ("message", .string d.message),
      ("location", (d.location.map Location.value).getD .null),
      ("arguments", .array (d.args.map .string)), ("labels", .array (d.labels.map Label.value)),
      ("notes", .array (d.notes.map .string)), ("suggestions", .array (d.suggestions.map .string))]

namespace Report.JsonArray

/-! ## §1 — words that need no escapes -/

instance (word : String) : Decidable (IsPlain word) := List.decidableBAll _ _

theorem isPlain_identifier (code : Diagnostic.Code) : IsPlain code.identifier := by
  cases code <;> decide

/-- The names of the rules are letters. -/
theorem isPlain_ruleName (code : Diagnostic.Code) : IsPlain code.ruleName := by
  cases code <;> decide

/-- So are the words for severities. -/
theorem isPlain_word (severity : Severity) : IsPlain severity.word := by
  cases severity <;> decide

theorem writes_plain {word : String} (h : IsPlain word) :
    Writes (.string word) ("\"" ++ word ++ "\"") := by
  rw [← Json.quote_of_isPlain h]
  exact Json.writes_string word

/-! ## §2 — lists -/

/-- A comma ends each line but the last one. Induction on the items after the first. -/
theorem commaLines_cons (text : String) (texts : List String) :
    commaLines (text :: texts) = ",\n".intercalate (text :: texts) ++ "\n" := by
  induction texts generalizing text with
  | nil => rw [commaLines, String.intercalate_singleton]
  | cons next texts ih =>
    rw [commaLines, ih, String.intercalate_cons_cons]
    · simp only [String.append_assoc]
    · exact fun h => nomatch h

/-- A list with each item on lines of its own. -/
theorem writes_commaLines {vs : List Value} {texts : List String}
    (h : List.Forall₂ Writes vs texts) :
    Writes (.array vs) ("[\n" ++ commaLines texts ++ "    ]") := by
  cases texts with
  | nil =>
    -- nothing ends the line of the bracket, so the closing one stands right after its line end
    have hclose : WritesToken ']' "    ]" := Json.writesToken (by decide)
    have harray := Json.writes_array "[\n" ",\n" _ (by decide) (by decide) hclose h
    rwa [String.intercalate_nil] at harray
  | cons text texts =>
    have hclose : WritesToken ']' ("\n" ++ "    ]") := Json.writesToken (by decide)
    have harray := Json.writes_array "[\n" ",\n" _ (by decide) (by decide) hclose h
    rw [commaLines_cons]
    simpa only [String.append_assoc] using harray

/-- The member for a list holds the list of what its items stand for. -/
theorem writesMember_listMember (key : String) (hkey : IsPlain key) {vs : List Value}
    {texts : List String} (h : List.Forall₂ Writes vs texts) :
    WritesMember (key, .array vs) (listMember key texts) := by
  have hmember := Json.writesMember ("    \"" ++ key ++ "\": ") key hkey
    (by simp [Json.isJsonBlank]) (writes_commaLines h)
  refine hmember.congr ?_
  simp [listMember]

/-- The member for a list of strings holds these strings, each one quoted. -/
theorem writesMember_stringsMember (key : String) (hkey : IsPlain key) (items : List String) :
    WritesMember (key, .array (items.map .string)) (stringsMember key items) := by
  refine writesMember_listMember key hkey ?_
  rw [List.forall₂_map_left_iff, List.forall₂_map_right_iff, List.forall₂_same]
  exact fun item _ => (Json.writes_string item).after_blanks _ (by decide)

/-! ## §3 — places, labels and diagnostics -/

/-- A place is written on one line. -/
theorem writes_location (location : Location) :
    Writes location.value ("\x7b \"file\": " ++ Json.quote location.file ++ ", \"line\": " ++
      toString location.line.toNat ++ ", \"column\": " ++ toString location.column.toNat ++
      " \x7d") := by
  have hfile := Json.writesMember "\"file\": " "file" (by decide) (by decide)
    (Json.writes_string location.file)
  have hline := Json.writesMember "\"line\": " "line" (by decide) (by decide)
    (Json.writes_number location.line.toNat)
  have hcolumn := Json.writesMember "\"column\": " "column" (by decide) (by decide)
    (Json.writes_number location.column.toNat)
  -- the three members, with what stands around and between them
  have hobject := Json.writes_object "\x7b " ", " " \x7d" (by decide) (by decide)
    (Json.writesToken (by decide)) (.cons hfile (.cons hline (.cons hcolumn .nil)))
  refine hobject.congr ?_
  simp

/-- The member for a place holds an object, or nothing if the place is not known. -/
theorem writesMember_locationMember (location : Option Location) :
    WritesMember ("location", (location.map Location.value).getD .null)
      (locationMember location) := by
  have hkey : ∀ {v : Value} {text : String}, Writes v text →
      WritesMember ("location", v) ("    \"location\": " ++ text) :=
    fun h => Json.writesMember "    \"location\": " "location" (by decide) (by decide) h
  cases location with
  | none =>
    refine (hkey Json.writes_null).congr ?_
    unfold locationMember
    simp
  | some location =>
    refine (hkey (writes_location location)).congr ?_
    unfold locationMember
    simp

/-- A label is written over several lines, with its place spread over its members. -/
theorem writes_labelObject (label : Label) : Writes label.value (labelObject label) := by
  have hfile := Json.writesMember "        \"file\": " "file" (by decide) (by decide)
    (Json.writes_string label.location.file)
  have hline := Json.writesMember "        \"line\": " "line" (by decide) (by decide)
    (Json.writes_number label.location.line.toNat)
  have hcolumn := Json.writesMember "        \"column\": " "column" (by decide) (by decide)
    (Json.writes_number label.location.column.toNat)
  have hmessage := Json.writesMember "        \"message\": " "message" (by decide) (by decide)
    (Json.writes_string label.message)
  have hobject := Json.writes_object "\x7b\n" ",\n" "\n      \x7d" (by decide) (by decide)
    (Json.writesToken (by decide))
    (.cons hfile (.cons hline (.cons hcolumn (.cons hmessage .nil))))
  -- the same characters, cut at other places
  refine (hobject.after_blanks "      " (by decide)).congr ?_
  unfold labelObject
  simp

/-- **What is written for a diagnostic.** -/
theorem writes_object (d : Diagnostic) : Writes d.value (object d) := by
  have hcode := Json.writesMember "    \"code\": " "code" (by decide) (by decide)
    (writes_plain (isPlain_identifier d.code))
  have hname := Json.writesMember "    \"name\": " "name" (by decide) (by decide)
    (writes_plain (isPlain_ruleName d.code))
  have hseverity := Json.writesMember "    \"severity\": " "severity" (by decide) (by decide)
    (writes_plain (isPlain_word d.severity))
  have hmessage := Json.writesMember "    \"message\": " "message" (by decide) (by decide)
    (Json.writes_string d.message)
  have hlocation := writesMember_locationMember d.location
  have hargs := writesMember_stringsMember "arguments" (by decide) d.args
  have hlabels : WritesMember ("labels", .array (d.labels.map Label.value))
      (listMember "labels" (d.labels.map labelObject)) := by
    refine writesMember_listMember "labels" (by decide) ?_
    rw [List.forall₂_map_left_iff, List.forall₂_map_right_iff, List.forall₂_same]
    exact fun label _ => writes_labelObject label
  have hnotes := writesMember_stringsMember "notes" (by decide) d.notes
  have hsuggestions := writesMember_stringsMember "suggestions" (by decide) d.suggestions
  have hobject := Json.writes_object "\x7b\n" ",\n" "\n  \x7d" (by decide) (by decide)
    (Json.writesToken (by decide))
    (.cons hcode (.cons hname (.cons hseverity (.cons hmessage (.cons hlocation
      (.cons hargs (.cons hlabels (.cons hnotes (.cons hsuggestions .nil)))))))))
  -- the same characters, cut at other places
  refine (hobject.after_blanks "  " (by decide)).congr ?_
  unfold object
  simp

/-! ## §4 — reports -/

/-- Commas are written before every object but the first. Induction on what comes after it. -/
theorem items_cons (progress : Progress) (d : Diagnostic) (ds : List Diagnostic) :
    items progress (d :: ds) =
      (if progress.hasItems then ",\n" else "") ++ ",\n".intercalate ((d :: ds).map object) := by
  induction ds generalizing progress d with
  | nil => simp [items, item]
  | cons next ds ih =>
    -- from the second diagnostic on there are items before it
    rw [items, ih, item, if_pos rfl]
    simp only [List.map_cons, String.intercalate_cons_cons, String.append_assoc]

/-- So what is written one after the other is a list with commas between its items. -/
theorem items_eq_intercalate (ds : List Diagnostic) :
    items {} ds = ",\n".intercalate (ds.map object) := by
  cases ds with
  | nil => rfl
  | cons d ds => rw [items_cons, if_neg Bool.false_ne_true, String.empty_append]

/-- The array without the line end after it. -/
theorem writes_report (ds : List Diagnostic) :
    Writes (.array (ds.map Diagnostic.value)) (opening ++ items {} ds ++ "\n]") := by
  rw [items_eq_intercalate]
  refine Json.writes_array opening ",\n" "\n]" (by decide) (by decide)
    (Json.writesToken (by decide)) ?_
  rw [List.forall₂_map_left_iff, List.forall₂_map_right_iff, List.forall₂_same]
  exact fun d _ => writes_object d

/-- After the bracket of the array comes one more line end. -/
theorem isText_report (ds : List Diagnostic) :
    Value.IsText (.array (ds.map Diagnostic.value)) (report ds) := by
  have hlines : (report ds).toList = (opening ++ items {} ds ++ "\n]").toList ++ ['\n'] := by
    simp [report, closing]
  refine ⟨['\n'], ?_, List.forall_mem_singleton.mpr (by decide)⟩
  rw [hlines]
  exact writes_report ds ['\n']

end JsonArray

/-- **A report stands for its diagnostics and for nothing else.** -/
theorem isText_text_iff (mode : ColorMode) (isTerminal : Bool) (ds : List Diagnostic) (v : Value) :
    v.IsText (text .json mode isTerminal ds) ↔ v = .array (ds.map Diagnostic.value) := by
  have htext : Value.IsText (.array (ds.map Diagnostic.value)) (text .json mode isTerminal ds) :=
    JsonArray.isText_report ds
  -- a text stands for one value at most
  constructor
  · exact fun h => h.unique htext
  · rintro rfl
    exact htext

end Report

end Registrar
