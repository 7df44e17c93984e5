import Registrar.Proofs.Pass.Outcomes

/-!
# A pass over a manifest in phases

A pass over a manifest is a pass over what the manifest declares, and its diagnostics come phase by
phase: those of the intake, those of the choice of constructors, those of the order. The intake lets
no service through without a class name and a service type, so the second phase never has to report
a missing name again.

* `Service.IsNamed` : a service has both names.
* `Manifest.lower_spec` : what a manifest declares is named, and what the intake reports is its own.
* `Phased` : how a pass over a manifest is made up.
* `compileManifest_phased` : it is.
-/

namespace Registrar

/-- A service has the name of a class and of a service type. -/
structure Service.IsNamed (service : Service) : Prop where
  className : service.className.isEmpty = false
  serviceType : service.serviceType.isEmpty = false

/-- The codes that the intake reports. -/
def intakeCodes : List Diagnostic.Code := [.malformedAttributeArgument, .conflictingLifetimeMarkers]

/-- The codes that the choice of a constructor reports. -/
def selectionCodes : List Diagnostic.Code :=
  [.noEligibleConstructor, .ambiguousConstructor, .multipleInjectionConstructors]

namespace Manifest

/-! ## §1 — one class -/

/-- A service type that is found is not empty. -/
theorem AttributeEntry.isEmpty_of_serviceType?_eq_some {attr : AttributeEntry} {name : TypeName}
    (h : attr.serviceType? = some name) : name.isEmpty = false := by
  unfold serviceType? at h
  split at h
  · exact absurd h (by simp)
  · dsimp only at h
    split at h
    · exact absurd h (by simp)
    · next hname =>
      obtain rfl := Option.some.inj h
      simpa using hname

/-- A class declares no service or one, and that one has a service type. -/
theorem ClassEntry.services_cases {entry : ClassEntry} {services : List Service}
    (h : entry.services = .ok services) :
    services = [] ∨ ∃ serviceType lifetime, serviceType.isEmpty = false ∧
      services = [entry.service serviceType lifetime] := by
  unfold ClassEntry.services at h
  split at h
  · exact Or.inl (Except.ok.inj h).symm
  · next lifetime attr _ =>
    split at h
    · next serviceType hsome =>
      exact Or.inr ⟨serviceType, lifetime, AttributeEntry.isEmpty_of_serviceType?_eq_some hsome,
        (Except.ok.inj h).symm⟩
    · exact absurd h (by simp)
  · exact absurd h (by simp)

/-- What a class declares has both names. -/
theorem ClassEntry.isNamed_of_mem_declares {entry : ClassEntry} {batch : Batch}
    (h : entry.declares = .ok batch) {service : Service} (hs : service ∈ batch.services) :
    service.IsNamed := by
  unfold ClassEntry.declares at h
  split at h
  · -- without a marker and without a tag nothing is declared
    obtain rfl := Except.ok.inj h
    exact absurd hs List.not_mem_nil
  · split at h
    · exact absurd h (by simp)
    · next hname =>
      -- the class has a name, so only the service type is left to be checked
      cases hservices : entry.services with
      | error fault =>
        rw [hservices] at h
        exact absurd h (by simp [Except.map])
      | ok services =>
        rw [hservices] at h
        obtain rfl := Except.ok.inj h
        rcases ClassEntry.services_cases hservices with rfl | ⟨serviceType, lifetime, htype, rfl⟩
        · exact absurd hs List.not_mem_nil
        · obtain rfl := List.mem_singleton.mp hs
          exact ⟨Bool.not_eq_true _ ▸ hname, htype⟩

theorem ClassFault.code_report_mem (fault : ClassFault) (entry : ClassEntry) :
    (fault.report entry).code ∈ intakeCodes := by
  cases fault with
  | unnamed | missingServiceType => exact List.mem_cons_self
  | conflictingMarkers => exact List.mem_cons_of_mem _ List.mem_cons_self

/-- A class declares services that are named, and its diagnostics are those of the intake. -/
theorem ClassEntry.lower_spec (entry : ClassEntry) :
    (∀ service ∈ entry.lower.batch.services, service.IsNamed) ∧
      ∀ d ∈ entry.lower.diagnostics, d.code ∈ intakeCodes := by
  unfold ClassEntry.lower
  split
  · next batch hdeclares =>
    exact ⟨fun service hs => ClassEntry.isNamed_of_mem_declares hdeclares hs,
      fun d hd => absurd hd List.not_mem_nil⟩
  · next fault _ =>
    refine ⟨fun service hs => absurd hs List.not_mem_nil, fun d hd => ?_⟩
    obtain rfl := List.mem_singleton.mp hd
    exact fault.code_report_mem entry

/-! ## §2 — all classes -/

/-- What one class keeps, all classes keep. Induction on the classes. -/
theorem lower_spec (manifest : Manifest) :
    (∀ service ∈ manifest.lower.batch.services, service.IsNamed) ∧
      ∀ d ∈ manifest.lower.diagnostics, d.code ∈ intakeCodes := by
  obtain ⟨classes⟩ := manifest
  induction classes with
  | nil => exact ⟨fun _ hs => absurd hs List.not_mem_nil, fun _ hd => absurd hd List.not_mem_nil⟩
  | cons entry classes ih =>
    obtain ⟨hservices, hdiagnostics⟩ := entry.lower_spec
    refine ⟨fun service hs => ?_, fun d hd => ?_⟩
    · rcases List.mem_append.mp hs with hs | hs
      · exact hservices service hs
      · exact ih.1 service hs
    · rcases List.mem_append.mp hd with hd | hd
      · exact hdiagnostics d hd
      · exact ih.2 d hd

end Manifest

/-! ## §3 — the pass -/

theorem Rejection.code_report_mem (rejection : Rejection) (service : Service) :
    (rejection.report service).code ∈ selectionCodes := by
  cases rejection with
  | noneQualifies => exact List.mem_cons_self
  | tied => exact List.mem_cons_of_mem _ List.mem_cons_self
  | severalMarked => exact List.mem_cons_of_mem _ (List.mem_cons_of_mem _ List.mem_cons_self)

/-- A named service can only fail for want of a constructor. -/
theorem Service.IsNamed.code_of_failed? {service : Service} (h : service.IsNamed)
    {policy : MarkerPolicy} {d : Diagnostic} (hd : service.failed? policy = some d) :
    d.code ∈ selectionCodes := by
  have hnamed : ¬ (service.className.isEmpty = true ∨ service.serviceType.isEmpty = true) := by
    simp [h.className, h.serviceType]
  unfold failed? outcome at hd
  rw [if_neg hnamed] at hd
  cases hselect : service.select policy with
  | ok selection =>
    rw [hselect] at hd
    exact absurd hd (by simp)
  | error rejection =>
    rw [hselect] at hd
    obtain rfl := Option.some.inj hd
    exact rejection.code_report_mem service

/-- How a pass over a manifest is made up of the intake and of a pass over what the manifest
declares. -/
structure Phased (manifest : Manifest) (config : Config) : Prop where
  descriptors : (compileManifest manifest config).descriptors =
    (compile manifest.lower.batch config).descriptors
  sources : (compileManifest manifest config).sources =
    (compile manifest.lower.batch config).sources
  diagnostics : (compileManifest manifest config).diagnostics.toList =
    manifest.lower.diagnostics ++ (compile manifest.lower.batch config).diagnostics.toList
  errorCount : (compileManifest manifest config).diagnostics.errorCount =
    (Diagnostics.ofList manifest.lower.diagnostics).errorCount +
      (compile manifest.lower.batch config).diagnostics.errorCount
  warningCount : (compileManifest manifest config).diagnostics.warningCount =
    (Diagnostics.ofList manifest.lower.diagnostics).warningCount +
      (compile manifest.lower.batch config).diagnostics.warningCount
  intake : ∀ d ∈ manifest.lower.diagnostics, d.code ∈ intakeCodes
  /-- At most one diagnostic for each service, in the order of the services. -/
  resolution : (resolve manifest.lower.batch.services config.markerPolicy).diagnostics =
    manifest.lower.batch.services.filterMap (·.failed? config.markerPolicy)
  selection : ∀ d ∈ (resolve manifest.lower.batch.services config.markerPolicy).diagnostics,
    d.code ∈ selectionCodes
  /-- After the resolution come the cycles, and nothing else. -/
  cycles : ∃ cycles, (compile manifest.lower.batch config).diagnostics.toList =
      (resolve manifest.lower.batch.services config.markerPolicy).diagnostics ++ cycles ∧
    ∀ d ∈ cycles, d.code = .cyclicSingletonDependency

theorem counted_compileAfter {intake : Diagnostics} (h : intake.Counted) (batch : Batch)
    (config : Config) : (compileAfter intake batch config).diagnostics.Counted :=
  (h.extend _).extend _

/-- The counts of diagnostics in two parts are the sums of the counts. -/
theorem Diagnostics.Counted.add {whole first second : Diagnostics} (hwhole : whole.Counted)
    (hfirst : first.Counted) (hsecond : second.Counted)
    (h : whole.toList = first.toList ++ second.toList) :
    whole.errorCount = first.errorCount + second.errorCount ∧
      whole.warningCount = first.warningCount + second.warningCount := by
  refine ⟨?_, ?_⟩
  · rw [hwhole.errorCount, hfirst.errorCount, hsecond.errorCount, h, List.countP_append]
  · rw [hwhole.warningCount, hfirst.warningCount, hsecond.warningCount, h, List.countP_append]

/-- **A pass over a manifest goes phase by phase.** -/
theorem compileManifest_phased (manifest : Manifest) (config : Config) :
    Phased manifest config := by
  -- the pass goes on from the diagnostics of the intake, which stay in front
  have hparts : (compileManifest manifest config).diagnostics.toList =
      (Diagnostics.ofList manifest.lower.diagnostics).toList ++
        (compile manifest.lower.batch config).diagnostics.toList := by
    simp only [compileManifest, compile, compileAfter, Diagnostics.toList_extend,
      Diagnostics.toList_empty, List.nil_append, List.append_assoc]
  have hintake : (Diagnostics.ofList manifest.lower.diagnostics).Counted :=
    Diagnostics.Counted.empty.extend _
  obtain ⟨herrors, hwarnings⟩ := (counted_compileAfter hintake _ config).add hintake
    (counted_compileAfter Diagnostics.Counted.empty _ config) hparts
  have hresolution : (resolve manifest.lower.batch.services config.markerPolicy).diagnostics =
      manifest.lower.batch.services.filterMap (·.failed? config.markerPolicy) := by
    rw [resolve_eq]
    rfl
  obtain ⟨hservices, hcodes⟩ := manifest.lower_spec
  refine ⟨rfl, rfl, ?_, herrors, hwarnings, hcodes, hresolution, ?_, ?_⟩
  · rw [hparts, Diagnostics.ofList, Diagnostics.toList_extend]
    rfl
  · intro d hd
    rw [hresolution] at hd
    obtain ⟨service, hservice, hfailed⟩ := List.mem_filterMap.mp hd
    exact (hservices service hservice).code_of_failed? hfailed
  · rw [hresolution]
    exact ⟨_, toList_compile_diagnostics _ config,
      fun d hd => (Ordering.code_of_mem_order_diagnostics hd).1⟩

end Registrar
