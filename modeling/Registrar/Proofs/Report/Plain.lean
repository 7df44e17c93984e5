import Registrar.Report.Terminal

/-!
# Plain reports and the text of a diagnostic

A diagnostic can be shown in two ways: as a text, or as a block of a report. A text puts a line feed
in front of every line but the first, a block puts one behind every line and leaves an empty line at
the end. Without colours that is all there is between them, except that a text has a blank after the
severity and a block has none. A report ends in one line that sums it up.

* `terminated_eq` : line feeds in front of lines and line feeds behind them.
* `text_eq`, `render_block` : both forms, line by line.
* `plain_blocks` : a plain report is made of the texts of its diagnostics.
* `SumsUp`, `sumsUp_summary` : the line for so many errors and warnings.
-/

namespace Registrar.Report.Terminal

/-! ## §1 — lines -/

/-- The line that says what is wrong; `gap` comes after the severity. -/
def heading (gap : String) (d : Diagnostic) : String :=
  d.severity.word ++ gap ++ "[" ++ d.code.identifier ++ "]: " ++ d.message

/-- The lines that follow the heading. -/
def details (d : Diagnostic) : List String :=
  d.location.toList.map (fun place => "  --> " ++ place.text) ++
    d.labels.map (fun label => "      " ++ label.location.text ++ ": " ++ label.message) ++
    d.notes.map ("  = note: " ++ ·) ++
    d.suggestions.map ("  = help: " ++ ·)

/-- A line feed before the first of some lines that end in one each, or one in front of each line
and one after the last: the same text. -/
theorem terminated_eq (lines : List String) :
    "\n" ++ String.join (lines.map (· ++ "\n")) = String.join (lines.map ("\n" ++ ·)) ++ "\n" := by
  induction lines with
  | nil => rfl
  | cons line lines ih =>
    -- the line feed that ends a line is the one in front of the next line
    rw [List.map_cons, List.map_cons, String.join_cons, String.join_cons, String.append_assoc,
      String.append_assoc, ih]
    simp only [String.append_assoc]

/-! ## §2 — the two forms -/

/-- The text of a diagnostic is its heading and its details, each on a new line. -/
theorem text_eq (d : Diagnostic) :
    d.text = heading " " d ++ String.join ((details d).map ("\n" ++ ·)) := by
  -- each fixed text begins with the line feed that the line is given
  have hplace (text : String) : "\n" ++ ("  --> " ++ text) = "\n  --> " ++ text :=
    (String.append_assoc ..).symm
  have hlabel (text : String) : "\n" ++ ("      " ++ text) = "\n      " ++ text :=
    (String.append_assoc ..).symm
  have hnote (text : String) : "\n" ++ ("  = note: " ++ text) = "\n  = note: " ++ text :=
    (String.append_assoc ..).symm
  have hhelp (text : String) : "\n" ++ ("  = help: " ++ text) = "\n  = help: " ++ text :=
    (String.append_assoc ..).symm
  have hgap (text : String) : " " ++ ("[" ++ text) = " [" ++ text :=
    (String.append_assoc ..).symm
  simp only [Diagnostic.text, heading, details, List.map_append, String.join_append, List.map_map,
    Function.comp_def, String.append_assoc, hplace, hlabel, hnote, hhelp, hgap]

/-- Without colours only the texts of the spans are left. -/
theorem render_false (spans : List Span) :
    render false spans = String.join (spans.map (·.text)) := by
  refine congrArg String.join (List.map_congr_left fun span _ => ?_)
  unfold Span.render
  cases span.style <;> rfl

/-- Without colours, what is put together from several lists of spans is put together from their
texts. -/
theorem render_flatMap {α : Type} (list : List α) (spans : α → List Span) :
    render false (list.flatMap spans) = String.join (list.map fun a => render false (spans a)) := by
  induction list with
  | nil => rfl
  | cons a list ih =>
    rw [List.flatMap_cons, render_append, ih, List.map_cons, String.join_cons]

/-- A remark is one line, with its kind in front. -/
theorem render_remark (kind : String) (style : Style) (text : String) :
    render false (remark kind style text) = "  = " ++ kind ++ ": " ++ text ++ "\n" := by
  rw [render_false]
  simp only [remark, Span.plain, Span.styled, List.map_cons, List.map_nil, String.join_cons,
    String.join_nil, String.append_empty, String.append_assoc]

/-- A block is the same lines, each one ended, and one line more that is empty. -/
theorem render_block (d : Diagnostic) :
    render false (block d) =
      heading "" d ++ "\n" ++ String.join ((details d).map (· ++ "\n")) ++ "\n" := by
  -- the fixed texts of a block come in smaller pieces than those of a text
  have hcode (text : String) : "]" ++ (": " ++ text) = "]: " ++ text :=
    (String.append_assoc ..).symm
  have hnote (text : String) : "  = " ++ ("note" ++ (": " ++ text)) = "  = note: " ++ text := by
    rw [← String.append_assoc, ← String.append_assoc]
    rfl
  have hhelp (text : String) : "  = " ++ ("help" ++ (": " ++ text)) = "  = help: " ++ text := by
    rw [← String.append_assoc, ← String.append_assoc]
    rfl
  simp only [block, render_append, render_flatMap, render_remark]
  simp only [render_false, Span.plain, Span.styled, List.map_cons, List.map_nil, String.join_cons,
    String.join_nil, String.append_empty, heading, details, List.map_append, String.join_append,
    List.map_map, Function.comp_def, String.append_assoc, hcode, hnote, hhelp]

/-! ## §3 — a report and the texts -/

/-- A text without the first blank in it. -/
def withoutFirstBlank (text : String) : String := String.ofList (text.toList.erase ' ')

/-- The block that the text of a diagnostic becomes. -/
def blockOfText (text : String) : String := withoutFirstBlank text ++ "\n\n"

/-- The first blank is the one after a front without any. -/
theorem withoutFirstBlank_append {front : String} (h : ' ' ∉ front.toList) (back : String) :
    withoutFirstBlank (front ++ " " ++ back) = front ++ back := by
  rw [withoutFirstBlank, ← String.toList_inj, String.toList_ofList, String.append_assoc,
    String.toList_append, List.erase_append_right _ h, String.toList_append, String.toList_append]
  rfl

/-- What a text says after its first bracket. -/
def afterBracket (d : Diagnostic) : String :=
  d.code.identifier ++ "]: " ++ d.message ++ String.join ((details d).map ("\n" ++ ·))

theorem text_eq_append (d : Diagnostic) :
    d.text = d.severity.word ++ " " ++ ("[" ++ afterBracket d) := by
  rw [text_eq]
  simp only [heading, afterBracket, String.append_assoc]

/-- Taking the first blank out of a text takes out the one after the severity. -/
theorem blockOfText_text (d : Diagnostic) :
    blockOfText d.text = d.severity.word ++ ("[" ++ afterBracket d) ++ "\n\n" := by
  -- no word for a severity has a blank in it, so the first one is the one that follows the word
  have hword : ' ' ∉ d.severity.word.toList := by cases d.severity <;> decide
  rw [blockOfText, text_eq_append, withoutFirstBlank_append hword]

/-- **A diagnostic is shown as the block that its text becomes.** -/
theorem write_diagnostic (d : Diagnostic) : write false (.diagnostic d) = blockOfText d.text := by
  show render false (block d) = _
  rw [blockOfText_text]
  calc
    render false (block d)
      = heading "" d ++ ("\n" ++ String.join ((details d).map (· ++ "\n"))) ++ "\n" := by
        rw [render_block]
        simp only [String.append_assoc]
    _ = heading "" d ++ (String.join ((details d).map ("\n" ++ ·)) ++ "\n") ++ "\n" := by
        rw [terminated_eq]
    _ = d.severity.word ++ ("[" ++ afterBracket d) ++ ("\n" ++ "\n") := by
        simp only [heading, afterBracket, String.append_empty, String.append_assoc]

/-- **A plain report is made of texts.** For each diagnostic it holds the text of the diagnostic, but
without the blank between the severity and the bracket, and with an empty line after it. -/
theorem plain_blocks :
    (∀ d : Diagnostic,
      (∃ rest, d.text = d.severity.word ++ " " ++ ("[" ++ rest) ∧
        blockOfText d.text = d.severity.word ++ ("[" ++ rest) ++ "\n\n") ∧
      write false (.diagnostic d) = blockOfText d.text) ∧
    ∀ ds : List Diagnostic, blocks false ds = String.join (ds.map fun d => blockOfText d.text) := by
  refine ⟨?_, ?_⟩
  · intro d
    exact ⟨⟨afterBracket d, text_eq_append d, blockOfText_text d⟩, write_diagnostic d⟩
  · intro ds
    show render false (ds.flatMap block) = _
    rw [render_flatMap]
    refine congrArg String.join (List.map_congr_left fun d _ => ?_)
    exact write_diagnostic d

/-! ## §4 — the summary -/

/-- What sums up so many errors and warnings: one of either is not counted in the plural, a single
error is not counted at all, and there is no line where there is nothing to sum up. -/
inductive SumsUp : (errors warnings : Nat) → List Span → Prop where
  | nothing : SumsUp 0 0 []
  | warning : SumsUp 0 1 [.styled .warning "warning", .plain ": 1 warning emitted\n"]
  | warnings {m : Nat} (many : 2 ≤ m) : SumsUp 0 m
      [.styled .warning "warning", .plain (": " ++ toString m ++ " warnings emitted\n")]
  | error : SumsUp 1 0
      [.styled .error "error", .plain ": aborting due to previous error\n"]
  | errorAndWarning : SumsUp 1 1
      [.styled .error "error", .plain ": aborting due to previous error; 1 warning emitted\n"]
  | errorAndWarnings {m : Nat} (many : 2 ≤ m) : SumsUp 1 m
      [.styled .error "error",
        .plain (": aborting due to previous error; " ++ toString m ++ " warnings emitted\n")]
  | errors {n : Nat} (many : 2 ≤ n) : SumsUp n 0
      [.styled .error "error",
        .plain (": aborting due to " ++ toString n ++ " previous errors\n")]
  | errorsAndWarning {n : Nat} (many : 2 ≤ n) : SumsUp n 1
      [.styled .error "error",
        .plain (": aborting due to " ++ toString n ++ " previous errors; 1 warning emitted\n")]
  | errorsAndWarnings {n m : Nat} (many : 2 ≤ n) (many' : 2 ≤ m) : SumsUp n m
      [.styled .error "error",
        .plain (": aborting due to " ++ toString n ++ " previous errors; " ++ toString m ++
          " warnings emitted\n")]

variable {errors warnings : Nat} {spans : List Span}

theorem warningsEmitted_of_many (h : 2 ≤ warnings) :
    warningsEmitted warnings = toString warnings ++ " warnings emitted" := by
  rw [warningsEmitted, if_neg (by omega), String.append_assoc, String.append_assoc]
  rfl

/-- There is a line for all counts. -/
theorem exists_sumsUp (errors warnings : Nat) : ∃ spans, SumsUp errors warnings spans := by
  match errors, warnings with
  | 0, 0 => exact ⟨_, .nothing⟩
  | 0, 1 => exact ⟨_, .warning⟩
  | 0, m + 2 => exact ⟨_, .warnings (Nat.le_add_left 2 m)⟩
  | 1, 0 => exact ⟨_, .error⟩
  | 1, 1 => exact ⟨_, .errorAndWarning⟩
  | 1, m + 2 => exact ⟨_, .errorAndWarnings (Nat.le_add_left 2 m)⟩
  | n + 2, 0 => exact ⟨_, .errors (Nat.le_add_left 2 n)⟩
  | n + 2, 1 => exact ⟨_, .errorsAndWarning (Nat.le_add_left 2 n)⟩
  | n + 2, m + 2 =>
    exact ⟨_, .errorsAndWarnings (Nat.le_add_left 2 n) (Nat.le_add_left 2 m)⟩

/-- The summary is put together from smaller pieces. One case for each line. -/
theorem SumsUp.summary_eq (h : SumsUp errors warnings spans) : summary errors warnings = spans := by
  -- where the pieces meet, at a fixed text on either side
  have herror (text : String) : ": aborting due to " ++ ("previous error" ++ ("; " ++ text)) =
      ": aborting due to previous error; " ++ text := by
    rw [← String.append_assoc, ← String.append_assoc]
    rfl
  have herrors (text : String) :
      " previous errors" ++ ("; " ++ text) = " previous errors; " ++ text :=
    (String.append_assoc ..).symm
  have hend : " warnings emitted" ++ "\n" = " warnings emitted\n" := rfl
  cases h with
  | nothing | warning | error | errorAndWarning => rfl
  | warnings many =>
    simp only [summary, if_true, if_neg (show warnings ≠ 0 by omega), warningsEmitted_of_many many,
      String.append_assoc, hend]
  | errorAndWarnings many =>
    simp only [summary, Nat.one_ne_zero, if_false, if_true, if_neg (show warnings ≠ 0 by omega),
      warningsEmitted_of_many many, String.append_assoc, herror, hend]
  | errors many =>
    simp only [summary, if_true, if_neg (show errors ≠ 0 by omega),
      if_neg (show errors ≠ 1 by omega), String.append_assoc]
    rfl
  | errorsAndWarning many =>
    simp only [summary, Nat.one_ne_zero, if_false, if_neg (show errors ≠ 0 by omega),
      if_neg (show errors ≠ 1 by omega), String.append_assoc, herrors]
    rfl
  | errorsAndWarnings many many' =>
    simp only [summary, if_neg (show errors ≠ 0 by omega), if_neg (show errors ≠ 1 by omega),
      if_neg (show warnings ≠ 0 by omega), warningsEmitted_of_many many', String.append_assoc,
      herrors, hend]

/-- **What sums up a report**, for all counts. -/
theorem sumsUp_summary (errors warnings : Nat) :
    SumsUp errors warnings (summary errors warnings) := by
  obtain ⟨spans, h⟩ := exists_sumsUp errors warnings
  exact h.summary_eq.symm ▸ h

end Registrar.Report.Terminal
