import Registrar.Proofs.Manifest.Outcomes
import Registrar.Proofs.Pass.Phases

/-!
# All that a pass reports are findings

Every phase of a pass reports what it finds in the words and with the severity that go with the code,
and adds labels at most. So the codes of the diagnostics tell the errors from the warnings, and there
is nothing else among them; and as each one is counted when it is reported, the counts of a pass are
those of its diagnostics.

* `Diagnostic.IsFinding` : what all diagnostics of a pass are.
* `isFinding_of_mem_compileManifest` : they are.
* `Diagnostic.IsFinding.isError_iff`, `Diagnostic.IsFinding.isWarning_iff` : codes and severities.
* `counted_compileManifest` : the counts of a pass.
* `Diagnostics.toList_eq_nil_of_counts` : where nothing is counted, nothing was found.
-/

namespace Registrar

/-! ## §1 — findings -/

namespace Diagnostic

/-- The report of a finding, maybe with labels at other places. -/
def IsFinding (d : Diagnostic) : Prop :=
  ∃ (finding : Finding) (location : Option Location) (labels : List Label),
    d = { finding.report location with labels }

theorem Finding.isFinding_report (finding : Finding) (location : Option Location) :
    (finding.report location).IsFinding :=
  ⟨finding, location, [], rfl⟩

namespace IsFinding

variable {d : Diagnostic}

theorem severity_eq (h : d.IsFinding) : d.severity = d.code.severity := by
  obtain ⟨finding, location, labels, rfl⟩ := h
  rfl

theorem isError_iff (h : d.IsFinding) : d.isError = true ↔ d.code ≠ .ambiguousConstructor := by
  rw [isError, decide_eq_true_iff, h.severity_eq]
  cases d.code <;> decide

theorem isWarning_iff (h : d.IsFinding) : d.isWarning = true ↔ d.code = .ambiguousConstructor := by
  rw [isWarning, decide_eq_true_iff, h.severity_eq]
  cases d.code <;> decide

theorem isError_or_isWarning (h : d.IsFinding) : d.isError = true ∨ d.isWarning = true := by
  rw [h.isError_iff, h.isWarning_iff]
  exact (eq_or_ne d.code .ambiguousConstructor).symm

end IsFinding

end Diagnostic

/-! ## §2 — what each phase reports -/

theorem Manifest.ClassFault.isFinding_report (fault : ClassFault) (entry : ClassEntry) :
    (fault.report entry).IsFinding := by
  cases fault <;> exact Diagnostic.Finding.isFinding_report _ _

/-- Why a service has no descriptor is reported as a finding. -/
theorem Service.Failure.isFinding_report (failure : Failure) (service : Service) :
    (failure.report service).IsFinding := by
  cases failure with
  | unnamedClass => exact Diagnostic.Finding.isFinding_report _ _
  | unnamedServiceType => exact Diagnostic.Finding.isFinding_report _ _
  | rejected rejection =>
    cases rejection with
    | noneQualifies => exact Diagnostic.Finding.isFinding_report _ _
    -- several markers are the only finding with labels
    | severalMarked marked => exact ⟨_, _, _, rfl⟩
    | tied arity count => exact Diagnostic.Finding.isFinding_report _ _

theorem Ordering.isFinding_reportCycle {n : Nat} (descriptors : Vector Descriptor n)
    (locate : TypeName → Option Location) (chain : List (Fin n)) :
    (reportCycle descriptors locate chain).IsFinding :=
  Diagnostic.Finding.isFinding_report _ _

variable {d : Diagnostic}

/-- The intake reports findings only. -/
theorem isFinding_of_mem_lower {manifest : Manifest} (h : d ∈ manifest.lower.diagnostics) :
    d.IsFinding := by
  rw [(Manifest.classByClass_lower manifest).diagnostics, List.mem_flatMap] at h
  obtain ⟨lowered, hlowered, hd⟩ := h
  obtain ⟨entry, -, rfl⟩ := List.mem_map.mp hlowered
  unfold Manifest.ClassEntry.lower at hd
  split at hd
  · exact absurd hd List.not_mem_nil
  · obtain rfl := List.mem_singleton.mp hd
    exact Manifest.ClassFault.isFinding_report _ _

/-- The resolution reports findings only. -/
theorem isFinding_of_mem_resolve {services : List Service} {policy : MarkerPolicy}
    (h : d ∈ (resolve services policy).diagnostics) : d.IsFinding := by
  obtain ⟨service, -, hd⟩ := List.mem_filterMap.mp h
  unfold Service.diagnostic? at hd
  split at hd
  · exact absurd hd (by simp)
  · obtain rfl := Option.some.inj hd
    exact Service.Failure.isFinding_report _ _

/-- The order reports findings only. -/
theorem isFinding_of_mem_order {descriptors : List Descriptor} {policy : OrderingPolicy}
    {locate : TypeName → Option Location} (h : d ∈ (order descriptors policy locate).diagnostics) :
    d.IsFinding := by
  cases policy with
  | firstSeen => exact absurd h List.not_mem_nil
  | dependencyOrder =>
    obtain ⟨chain, -, rfl⟩ := List.mem_map.mp h
    exact Ordering.isFinding_reportCycle _ _ _

/-! ## §3 — the pass -/

/-- **All that a pass reports are findings**: those of the intake, of the resolution and of the
order. -/
theorem isFinding_of_mem_compileManifest {manifest : Manifest} {config : Config}
    (h : d ∈ (compileManifest manifest config).diagnostics.toList) : d.IsFinding := by
  simp only [compileManifest, compileAfter, Diagnostics.ofList, Diagnostics.toList_extend,
    Diagnostics.toList_empty, List.nil_append, List.mem_append] at h
  -- the three phases, in the order in which they report
  rcases h with (hintake | hresolution) | horder
  · exact isFinding_of_mem_lower hintake
  · exact isFinding_of_mem_resolve hresolution
  · exact isFinding_of_mem_order horder

theorem counted_compileManifest (manifest : Manifest) (config : Config) :
    (compileManifest manifest config).diagnostics.Counted :=
  counted_compileAfter (Diagnostics.Counted.empty.extend manifest.lower.diagnostics) _ config

/-- Findings that come to no error and no warning are none at all. -/
theorem Diagnostics.toList_eq_nil_of_counts {ds : Diagnostics} (hcounted : ds.Counted)
    (hfindings : ∀ d ∈ ds.toList, d.IsFinding) (herrors : ds.errorCount = 0)
    (hwarnings : ds.warningCount = 0) : ds.toList = [] := by
  rw [hcounted.errorCount, List.countP_eq_zero] at herrors
  rw [hcounted.warningCount, List.countP_eq_zero] at hwarnings
  refine List.eq_nil_iff_forall_not_mem.mpr fun d hd => ?_
  rcases (hfindings d hd).isError_or_isWarning with herror | hwarning
  · exact herrors d hd herror
  · exact hwarnings d hd hwarning

end Registrar
