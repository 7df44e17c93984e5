import Registrar.Command.Run
import Registrar.Proofs.Command.Generation
import Registrar.Proofs.Pass.Findings
import Registrar.Proofs.Report.Colours
import Registrar.Proofs.Report.Decoded
import Registrar.Proofs.Report.Plain

/-!
# How the program ends after a pass

The exit status goes by a count that is kept while diagnostics are reported, and the summary for
people counts once more at the end; a reader of the report can count for himself. All these agree. A
report for programs has the output stream for itself, whatever the command.

* `ReportsOn` : how an exit agrees with the diagnostics of a pass.
* `exists_sumsUp_of_human` : what people are shown after a pass.
* `reportsOn_exitAfterPass` : the exit after a pass does.
* `run_perform_check`, `run_perform_generate` : what the two commands come to.
* `output_of_run_generate` : the pass that `generate` installed.
* `commands_report_on_pass` : both commands end in agreement with the pass.
-/

namespace Registrar.Command

/-! ## §1 — the exit after a pass -/

/-- An exit agrees with the diagnostics of a pass: with the counts that were kept, with the
diagnostics themselves, and with their codes. -/
structure ReportsOn (exit : Exit) (settings : Settings) (isTerminal : Bool) (ds : Diagnostics) :
    Prop where
  errorCount : ds.errorCount = ds.toList.countP (·.severity = .error)
  warningCount : ds.warningCount = ds.toList.countP (·.severity = .warning)
  success : exit.status = 0 ↔ ∀ d ∈ ds.toList, d.severity ≠ .error
  failure : exit.status = 1 ↔ ∃ d ∈ ds.toList, d.severity = .error
  /-- An ambiguity is the only thing that does not make the program fail. -/
  codes : (∃ d ∈ ds.toList, d.severity = .error) ↔
    ∃ d ∈ ds.toList, d.code.identifier ≠ "DI1002"
  /-- People are shown each diagnostic, then the counts. -/
  human : settings.format = .human →
    exit.stderr = Report.Terminal.run (settings.color.isOn isTerminal)
      (ds.toList.map .diagnostic ++ [.summary ds.errorCount ds.warningCount])
  /-- They are told nothing if there is nothing to count. -/
  quiet : settings.format = .human → ds.errorCount = 0 → ds.warningCount = 0 → exit.stderr = ""
  /-- Programs get the array of the diagnostics and nothing else. -/
  json : settings.format = .json →
    exit.stdout = Report.JsonArray.report ds.toList ∧ exit.stderr = "" ∧
      Json.Value.IsText (.array (ds.toList.map Diagnostic.value)) exit.stdout

/-- Shown at once or one after the other, diagnostics come to the same text. -/
theorem human_eq_run (colors : Bool) (ds : List Diagnostic) :
    Report.human colors ds = Report.Terminal.run colors
      (ds.map .diagnostic ++ [.summary (ds.countP (·.isError)) (ds.countP (·.isWarning))]) := by
  rw [Report.Terminal.run_eq_render, List.flatMap_append, Report.Terminal.render_append,
    List.flatMap_map, List.flatMap_singleton]
  rfl

variable {output : Output} {settings : Settings} {isTerminal : Bool} {note : String}

theorem identifier_ne_iff {code : Diagnostic.Code} :
    code.identifier ≠ "DI1002" ↔ code ≠ .ambiguousConstructor := by
  cases code <;> decide

theorem status_exitAfterPass :
    (exitAfterPass output settings isTerminal note).status = if output.hasErrors then 1 else 0 := by
  unfold exitAfterPass
  cases settings.format <;> rfl

/-- People get the report on one stream and the note about files on the other. -/
theorem exitAfterPass_human (h : settings.format = .human) :
    exitAfterPass output settings isTerminal note =
      { status := if output.hasErrors then 1 else 0
        stdout := note
        stderr := Report.human (settings.color.isOn isTerminal) output.diagnostics.toList } := by
  simp only [exitAfterPass, h, Report.text]

/-- **What people are shown** is the block of each diagnostic and the line that sums them up. -/
theorem exists_sumsUp_of_human (h : settings.format = .human) :
    ∃ spans, Report.Terminal.SumsUp (output.diagnostics.toList.countP (·.isError))
        (output.diagnostics.toList.countP (·.isWarning)) spans ∧
      (exitAfterPass output settings isTerminal note).stderr =
        Report.Terminal.blocks (settings.color.isOn isTerminal) output.diagnostics.toList ++
          Report.Terminal.render (settings.color.isOn isTerminal) spans :=
  ⟨_, Report.Terminal.sumsUp_summary _ _, by rw [exitAfterPass_human h]; rfl⟩

/-- Programs get the report, and nothing else on either stream. -/
theorem exitAfterPass_json (h : settings.format = .json) :
    exitAfterPass output settings isTerminal note =
      { status := if output.hasErrors then 1 else 0
        stdout := Report.JsonArray.report output.diagnostics.toList } := by
  simp only [exitAfterPass, h, Report.text]

/-- Where all diagnostics are findings and all were counted, the exit agrees with them. -/
theorem reportsOn_exitAfterPass (hcounted : output.diagnostics.Counted)
    (hfindings : ∀ d ∈ output.diagnostics.toList, d.IsFinding) :
    ReportsOn (exitAfterPass output settings isTerminal note) settings isTerminal
      output.diagnostics := by
  -- the status goes by the count, and the count by the diagnostics
  have hhas : output.hasErrors = true ↔ ∃ d ∈ output.diagnostics.toList, d.severity = .error := by
    rw [Output.hasErrors, Diagnostics.hasErrors, decide_eq_true_iff, hcounted.errorCount,
      List.countP_pos_iff]
    simp only [Diagnostic.isError, decide_eq_true_eq]
  have hnone : output.hasErrors = false ↔
      ∀ d ∈ output.diagnostics.toList, d.severity ≠ .error := by
    rw [← Bool.not_eq_true, hhas]
    simp only [not_exists, not_and, ne_eq]
  refine ⟨hcounted.errorCount, hcounted.warningCount, ?_, ?_, ?_, fun hformat => ?_,
    fun hformat herrors hwarnings => ?_, fun hformat => ?_⟩
  · rw [status_exitAfterPass, ← hnone]
    cases output.hasErrors <;> decide
  · rw [status_exitAfterPass, ← hhas]
    cases output.hasErrors <;> decide
  · refine exists_congr fun d => and_congr_right fun hd => ?_
    rw [identifier_ne_iff, ← (hfindings d hd).isError_iff, Diagnostic.isError, decide_eq_true_iff]
  · rw [exitAfterPass_human hformat, human_eq_run, hcounted.errorCount, hcounted.warningCount]
  · rw [exitAfterPass_human hformat,
      Diagnostics.toList_eq_nil_of_counts hcounted hfindings herrors hwarnings]
    rfl
  · rw [exitAfterPass_json hformat]
    exact ⟨rfl, rfl, Report.JsonArray.isText_report _⟩

/-! ## §2 — the commands -/

variable {store after : FileStore} {path directory : String} {manifest : Manifest}
  {config : Config} {done : Generated}

/-- `check` leaves the store as it is, and ends after the pass. -/
theorem run_perform_check (h : Loads store path manifest) :
    (perform isTerminal ⟨.check path, settings⟩ : StateM FileStore Exit).run store =
      (exitAfterPass (compileManifest manifest settings.config) settings isTerminal "", store) := by
  have hcheck : (check path settings.config : StateM FileStore _) store =
      (.ok (compileManifest manifest settings.config), store) := run_check_of_loads h
  show (perform isTerminal ⟨.check path, settings⟩ : StateM FileStore Exit) store = _
  simp only [perform, bind, StateT.bind, hcheck]
  rfl

/-- `generate` ends after the pass, with a note on the files, if all of these were installed. -/
theorem run_perform_generate
    (h : (generate path (settings.outputDirectory.getD ".") settings.config :
      StateM FileStore _).run store = (.ok done, after)) :
    (perform isTerminal ⟨.generate path, settings⟩ : StateM FileStore Exit).run store =
      (exitAfterPass done.output settings isTerminal
        (done.note (settings.outputDirectory.getD ".")), after) := by
  replace h : (generate path (settings.outputDirectory.getD ".") settings.config :
    StateM FileStore _) store = (.ok done, after) := h
  show (perform isTerminal ⟨.generate path, settings⟩ : StateM FileStore Exit) store = _
  simp only [perform, bind, StateT.bind, h]
  rfl

/-- Where `generate` gets to its end, it was the pass over the manifest that it installed. -/
theorem output_of_run_generate (hloads : Loads store path manifest)
    (h : (generate path directory config : StateM FileStore _).run store = (.ok done, after)) :
    done.output = compileManifest manifest config := by
  rw [run_generate_of_loads hloads] at h
  -- a directory that could not be created is a failure
  split at h
  · exact nomatch (Prod.mk.inj h).1
  · obtain ⟨-, ⟨hresult, -⟩ | ⟨_, _, _, -, hresult, -⟩⟩ :=
      installAll_cases (areFiles_sources manifest config) h
    · obtain rfl := Except.ok.inj hresult
      rfl
    · exact nomatch hresult

/-- What a pass reports was found and counted, so the exit after it agrees with it. -/
theorem reportsOn_compileManifest (manifest : Manifest) :
    ReportsOn (exitAfterPass (compileManifest manifest settings.config) settings isTerminal note)
      settings isTerminal (compileManifest manifest settings.config).diagnostics :=
  reportsOn_exitAfterPass (counted_compileManifest manifest settings.config)
    fun _ => isFinding_of_mem_compileManifest

/-- **Both commands end in agreement with the pass**, whatever they were told: `check` in any case,
`generate` if all its files could be installed. A line about the files goes to people only, so what
programs read is the report, for `generate` as well. What was asked for on a command line is what is
carried out. -/
theorem commands_report_on_pass (hloads : Loads store path manifest) (isTerminal : Bool)
    (settings : Settings) :
    let ds := (compileManifest manifest settings.config).diagnostics
    let directory := settings.outputDirectory.getD "."
    (∃ exit, (perform isTerminal ⟨.check path, settings⟩ : StateM FileStore Exit).run store =
        (exit, store) ∧ ReportsOn exit settings isTerminal ds) ∧
    (∀ done after, (generate path directory settings.config : StateM FileStore _).run store =
        (.ok done, after) →
      ∃ exit, (perform isTerminal ⟨.generate path, settings⟩ : StateM FileStore Exit).run store =
        (exit, after) ∧ ReportsOn exit settings isTerminal ds ∧
        (settings.format = .human → exit.stdout = done.note directory)) ∧
    ∀ args action, parse args = .ok ⟨action, settings⟩ →
      (run isTerminal args : StateM FileStore Exit) = perform isTerminal ⟨action, settings⟩ := by
  intro ds directory
  refine ⟨⟨_, run_perform_check hloads, reportsOn_compileManifest manifest⟩,
    fun done after hrun => ?_, fun args action hparse => ?_⟩
  · have houtput := output_of_run_generate hloads hrun
    refine ⟨_, run_perform_generate hrun, ?_, fun hformat => ?_⟩
    · rw [houtput]
      exact reportsOn_compileManifest manifest
    · rw [exitAfterPass_human hformat]
  · rw [run, hparse]

/-- A scope root without a name, compiled for a program to read. -/
theorem commands_report_on_pass_unnamed :
    let text := "\x7b\"classes\": [\x7b\"name\": \"\", " ++
      "\"attributes\": [\x7b\"name\": \"ScopeRoot\"\x7d]\x7d]\x7d"
    let store : FileStore := ⟨[(["di.json"], .file text.toUTF8)]⟩
    let settings : Settings := { format := .json }
    ∃ manifest done after exit, Loads store "di.json" manifest ∧
      (generate "di.json" "." settings.config : StateM FileStore _).run store = (.ok done, after) ∧
      (perform true ⟨.generate "di.json", settings⟩ : StateM FileStore Exit).run store =
        (exit, after) ∧
      ReportsOn exit settings true (compileManifest manifest settings.config).diagnostics ∧
      (compileManifest manifest settings.config).diagnostics.errorCount = 1 := by
  intro text store settings
  have hread : store.readText "di.json" = .ok text := by decide +kernel
  have hjson : (match Manifest.ofJson text with
      | .ok manifest =>
        decide ((compileManifest manifest settings.config).diagnostics.errorCount = 1)
      | .error _ => false) = true := by
    decide +kernel
  have hgenerate : (match
        (generate "di.json" "." settings.config : StateM FileStore _).run store with
      | (.ok _, _) => true
      | (.error _, _) => false) = true := by
    decide +kernel
  split at hjson
  · next manifest hmanifest =>
    split at hgenerate
    · next done after hrun =>
      have hloads : Loads store "di.json" manifest := ⟨text, hread, hmanifest⟩
      obtain ⟨exit, hperform, hreports, -⟩ :=
        (commands_report_on_pass hloads true settings).2.1 done after hrun
      exact ⟨manifest, done, after, exit, hloads, hrun, hperform, hreports,
        of_decide_eq_true hjson⟩
    · exact nomatch hgenerate
  · exact nomatch hjson

end Registrar.Command
