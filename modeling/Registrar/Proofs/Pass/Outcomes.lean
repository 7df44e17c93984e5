import Registrar.Pass.Basic
import Registrar.Proofs.Lists
import Registrar.Proofs.Ordering.Chains

/-!
# What becomes of the services of a batch

Each service of a batch either has a descriptor or a diagnostic. A pass accounts for all of them:
what it registers are the descriptors, each once, and what it reports are the diagnostics in the
order of the services, before anything that the order of registrations has to report.

* `Service.outcome` : what becomes of one service.
* `resolve_eq` : resolution collects the outcomes.
* `Accounts` : what it means that an output accounts for a batch.
* `compile_lossless` : the output of a pass does.
-/

namespace Registrar

/-! ## §1 — one service -/

namespace Service

/-- The diagnostic for a service whose class or service type has no name. -/
def missingName (service : Service) : Diagnostic :=
  (Diagnostic.Finding.malformedAttributeArgument
    (if service.className.isEmpty then unnamedClassText else service.className.simpleName)
    service.lifetime.markerName
    (if service.className.isEmpty then "the class has no name" else "missing service type")).report
      service.location

/-- What becomes of a service: its descriptor, built from the constructor that is selected, or the
diagnostic that says why there is none. -/
def outcome (service : Service) (policy : MarkerPolicy) : Except Diagnostic Descriptor :=
  if service.className.isEmpty ∨ service.serviceType.isEmpty then .error service.missingName
  else
    match service.select policy with
    | .ok selection =>
      .ok { implementation := service.className
            interface := service.serviceType
            lifetime := service.lifetime
            parameters := selection.constructor.parameters }
    | .error rejection => .error (rejection.report service)

/-- The outcome of a service is its resolution, with the failure put into words. -/
theorem outcome_eq_resolve (service : Service) (policy : MarkerPolicy) :
    service.outcome policy =
      match service.resolve policy with
      | .ok descriptor => .ok descriptor
      | .error failure => .error (failure.report service) := by
  unfold outcome resolve
  -- the names are checked in this order, and a missing class name hides a missing service type
  by_cases hclass : service.className.isEmpty = true
  · simp [hclass, missingName, Failure.report]
  · by_cases htype : service.serviceType.isEmpty = true
    · simp [hclass, htype, missingName, Failure.report]
    · cases service.select policy with
      | ok selection => simp [hclass, htype, descriptor]
      | error rejection => simp [hclass, htype, Failure.report]

/-- A descriptor has both names, since a service without them has none. -/
theorem isWellFormed_of_outcome_eq_ok {service : Service} {policy : MarkerPolicy}
    {d : Descriptor} (h : service.outcome policy = .ok d) : d.isWellFormed = true := by
  unfold outcome at h
  split at h
  · exact absurd h (by simp)
  · next hnamed =>
    rw [not_or, Bool.not_eq_true, Bool.not_eq_true] at hnamed
    split at h
    · obtain rfl := Except.ok.inj h
      simp [Descriptor.isWellFormed, hnamed]
    · exact absurd h (by simp)

/-- The descriptor of a service, if it has one. -/
def made? (service : Service) (policy : MarkerPolicy) : Option Descriptor :=
  match service.outcome policy with
  | .ok descriptor => some descriptor
  | .error _ => none

/-- The diagnostic of a service, if it has no descriptor. -/
def failed? (service : Service) (policy : MarkerPolicy) : Option Diagnostic :=
  match service.outcome policy with
  | .ok _ => none
  | .error diagnostic => some diagnostic

theorem toOption_resolve (service : Service) (policy : MarkerPolicy) :
    (service.resolve policy).toOption = service.made? policy := by
  rw [made?, outcome_eq_resolve]
  cases service.resolve policy <;> rfl

theorem diagnostic?_eq (service : Service) (policy : MarkerPolicy) :
    service.diagnostic? policy = service.failed? policy := by
  rw [failed?, outcome_eq_resolve, diagnostic?]
  cases service.resolve policy <;> rfl

end Service

/-! ## §2 — all services -/

namespace Batch

/-- The distinct descriptors of the services, each where it is first seen. -/
def made (batch : Batch) (policy : MarkerPolicy) : List Descriptor :=
  (batch.services.filterMap (·.made? policy)).eraseDups

/-- The diagnostics of the services that have no descriptor, in order. -/
def failed (batch : Batch) (policy : MarkerPolicy) : List Diagnostic :=
  batch.services.filterMap (·.failed? policy)

variable {batch : Batch} {policy : MarkerPolicy}

theorem mem_made_iff {d : Descriptor} :
    d ∈ batch.made policy ↔ ∃ service ∈ batch.services, service.outcome policy = .ok d := by
  rw [made, List.mem_eraseDups, List.mem_filterMap]
  refine exists_congr fun service => and_congr_right fun _ => ?_
  rw [Service.made?]
  cases service.outcome policy <;> simp

theorem isWellFormed_of_mem_made {d : Descriptor} (h : d ∈ batch.made policy) :
    d.isWellFormed = true := by
  obtain ⟨service, -, houtcome⟩ := mem_made_iff.mp h
  exact Service.isWellFormed_of_outcome_eq_ok houtcome

end Batch

theorem resolve_eq (batch : Batch) (policy : MarkerPolicy) :
    resolve batch.services policy = ⟨batch.made policy, batch.failed policy⟩ := by
  simp only [resolve, Batch.made, Batch.failed, Service.toOption_resolve, Service.diagnostic?_eq]

/-! ## §3 — the pass -/

/-- How an output accounts for the services of a batch. -/
structure Accounts (batch : Batch) (config : Config) (output : Output) : Prop where
  descriptors_perm : output.descriptors.Perm (batch.made config.markerPolicy)
  firstSeen : config.ordering = .firstSeen → output.descriptors = batch.made config.markerPolicy
  descriptors_nodup : output.descriptors.Nodup
  wellFormed : ∀ d ∈ output.descriptors, d.isWellFormed = true
  /-- After the diagnostics of the services only cycles are reported, and only by an order that
  goes by dependencies. -/
  diagnostics : ∃ cycles, output.diagnostics.toList = batch.failed config.markerPolicy ++ cycles ∧
    ∀ d ∈ cycles, d.code = .cyclicSingletonDependency ∧ config.ordering = .dependencyOrder

theorem compile_descriptors (batch : Batch) (config : Config) :
    (compile batch config).descriptors =
      (order (batch.made config.markerPolicy) config.ordering batch.locate).descriptors := by
  rw [compile, compileAfter, resolve_eq]

/-- The diagnostics of a pass are those of its services, and then those of the order. -/
theorem toList_compile_diagnostics (batch : Batch) (config : Config) :
    (compile batch config).diagnostics.toList =
      batch.failed config.markerPolicy ++
        (order (batch.made config.markerPolicy) config.ordering batch.locate).diagnostics := by
  rw [compile, compileAfter, resolve_eq]
  simp

/-- **A pass accounts for its batch.** -/
theorem accounts_compile (batch : Batch) (config : Config) :
    Accounts batch config (compile batch config) := by
  have hperm : (compile batch config).descriptors.Perm (batch.made config.markerPolicy) := by
    rw [compile_descriptors]
    exact Ordering.order_descriptors_perm _ _ _
  refine ⟨hperm, ?_, ?_, ?_, ?_⟩
  · intro hpolicy
    -- the first-seen order leaves the descriptors where they are
    rw [compile_descriptors, hpolicy]
    rfl
  · exact hperm.nodup_iff.mpr (nodup_eraseDups _)
  · intro d hd
    exact Batch.isWellFormed_of_mem_made (hperm.mem_iff.mp hd)
  · exact ⟨_, toList_compile_diagnostics batch config,
      fun _ => Ordering.code_of_mem_order_diagnostics⟩

/-- **Nothing is lost, nothing is registered twice and nothing is made up.** The output of a pass
accounts for all services of its batch; and passes that differ only in how they order registrations
have the same descriptors, in another order, and the same diagnostics but for the cycles that are
reported at the end. -/
theorem compile_lossless (batch : Batch) (config : Config) :
    Accounts batch config (compile batch config) ∧
      ∀ ordering, ∃ cycles cycles',
        (compile batch { config with ordering }).descriptors.Perm
          (compile batch config).descriptors ∧
        (compile batch config).diagnostics.toList = batch.failed config.markerPolicy ++ cycles ∧
        (compile batch { config with ordering }).diagnostics.toList =
          batch.failed config.markerPolicy ++ cycles' ∧
        ∀ d ∈ cycles ++ cycles', d.code = .cyclicSingletonDependency := by
  refine ⟨accounts_compile batch config, ?_⟩
  intro ordering
  have hfirst := accounts_compile batch config
  have hsecond := accounts_compile batch { config with ordering }
  obtain ⟨cycles, hcycles, hcode⟩ := hfirst.diagnostics
  obtain ⟨cycles', hcycles', hcode'⟩ := hsecond.diagnostics
  -- both are arrangements of what the services yield
  refine ⟨cycles, cycles', hsecond.descriptors_perm.trans hfirst.descriptors_perm.symm, hcycles,
    hcycles', ?_⟩
  intro d hd
  rcases List.mem_append.mp hd with hd | hd
  · exact (hcode d hd).1
  · exact (hcode' d hd).1

end Registrar
