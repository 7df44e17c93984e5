import Registrar.Proofs.Selection
import Registrar.Resolution

/-!
# The lenient policy only adds

The two marker policies differ on services with several marked constructors and on nothing else: the
strict policy refuses these, and the lenient one decides them by the number of parameters, which
finds a constructor or a tie. So whatever is registered under the strict policy is registered under
the lenient one, and of the diagnostics only those on several markers change. Where several services
give the same descriptor, another one of them may be the first to give it, so the descriptors can
stand in another order.

* `Service.Relaxes`, `Service.relaxes_resolve` : what the lenient policy changes about a service.
* `Relaxed`, `relaxed_diagnostics` : what it changes about the diagnostics of all services.
* `resolve_lenient` : the lenient policy only adds.
-/

namespace Registrar

/-! ## §1 — one service -/

namespace Service

variable {service : Service}

/-- Going by the number of parameters finds a constructor or a tie. -/
theorem selectGreedy_cases (service : Service) :
    (∃ selection, service.selectGreedy = .ok selection) ∨
      ∃ arity count, service.selectGreedy = .error (.tied arity count) := by
  unfold selectGreedy
  split
  · exact Or.inl ⟨_, rfl⟩
  · exact Or.inr ⟨_, _, rfl⟩

/-- With one marker or none the policy does not matter. -/
theorem select_of_few (h : service.eligibleMarked.length < 2) :
    ∃ outcome, (∀ policy, service.select policy = outcome) ∧
      ∀ marked, outcome ≠ .error (.severalMarked marked) := by
  by_cases hnone : service.eligible = []
  · exact ⟨_, fun _ => select_of_nil hnone, fun _ => nofun⟩
  · cases hmarked : service.eligibleMarked with
    | nil =>
      refine ⟨service.selectGreedy, fun policy => ?_, fun marked => ?_⟩
      · exact select_of_goesByArity ⟨Or.inl hmarked, isMaxArity_maxArity hnone⟩
      · rcases service.selectGreedy_cases with ⟨selection, hok⟩ | ⟨arity, count, htied⟩
        · rw [hok]
          nofun
        · rw [htied]
          nofun
    -- a single marker is taken as it is
    | cons c rest =>
      obtain rfl : rest = [] := by
        rw [hmarked, List.length_cons] at h
        exact List.length_eq_zero_iff.mp (by omega)
      exact ⟨_, fun _ => select_of_sole hmarked, fun _ => nofun⟩

/-- With several markers the lenient policy goes by the number of parameters. -/
theorem select_fallThrough_of_several (h : 2 ≤ service.eligibleMarked.length) :
    service.select .fallThrough = service.selectGreedy := by
  have hmarked : service.eligibleMarked ≠ [] := by
    intro hnil
    rw [hnil] at h
    exact absurd h (by decide)
  exact select_of_goesByArity
    ⟨Or.inr ⟨h, rfl⟩, isMaxArity_maxArity (eligible_ne_nil_of_marked hmarked)⟩

/-- What becomes of a service under the strict policy and under the lenient one: the same, unless
the strict policy refuses it for its markers. -/
inductive Relaxes : Except Failure Descriptor → Except Failure Descriptor → Prop where
  | same {outcome : Except Failure Descriptor}
      (other : ∀ marked, outcome ≠ .error (.rejected (.severalMarked marked))) :
      Relaxes outcome outcome
  | accepted {marked : List Constructor} {d : Descriptor} :
      Relaxes (.error (.rejected (.severalMarked marked))) (.ok d)
  | tied {marked : List Constructor} {arity count : Nat} :
      Relaxes (.error (.rejected (.severalMarked marked))) (.error (.rejected (.tied arity count)))

/-- A service with both names is resolved by the choice of a constructor. -/
theorem resolve_of_named (hclass : service.className.isEmpty = false)
    (htype : service.serviceType.isEmpty = false) (policy : MarkerPolicy) :
    service.resolve policy =
      match service.select policy with
      | .ok selection => .ok (service.descriptor selection.constructor)
      | .error rejection => .error (.rejected rejection) := by
  cases hselect : service.select policy <;> simp [resolve, hclass, htype, hselect]

/-- **One service.** A missing name is found under both policies, and so is what the selection does
with few markers. -/
theorem relaxes_resolve (service : Service) :
    Relaxes (service.resolve .strict) (service.resolve .fallThrough) := by
  cases hclass : service.className.isEmpty with
  | true =>
    have hunnamed : ∀ policy, service.resolve policy = .error .unnamedClass := by
      intro policy
      simp only [resolve, hclass, if_true]
    rw [hunnamed, hunnamed]
    exact .same fun _ => nofun
  | false =>
    cases htype : service.serviceType.isEmpty with
    | true =>
      have hunnamed : ∀ policy, service.resolve policy = .error .unnamedServiceType := by
        intro policy
        simp only [resolve, hclass, htype, Bool.false_eq_true, if_false, if_true]
      rw [hunnamed, hunnamed]
      exact .same fun _ => nofun
    | false =>
      rw [resolve_of_named hclass htype, resolve_of_named hclass htype]
      -- the policy is asked only if there are several markers
      by_cases hseveral : 2 ≤ service.eligibleMarked.length
      · rw [select_of_several hseveral, select_fallThrough_of_several hseveral]
        rcases service.selectGreedy_cases with ⟨selection, hok⟩ | ⟨arity, count, htied⟩
        · rw [hok]
          exact .accepted
        · rw [htied]
          exact .tied
      · obtain ⟨outcome, hselect, hother⟩ := select_of_few (Nat.lt_of_not_le hseveral)
        rw [hselect, hselect]
        cases outcome with
        | ok selection => exact .same fun _ => nofun
        | error rejection =>
          refine .same fun marked heq => hother marked ?_
          obtain rfl := Failure.rejected.inj (Except.error.inj heq)
          rfl

theorem Relaxes.ok {d : Descriptor} {outcome : Except Failure Descriptor}
    (h : Relaxes (.ok d) outcome) : outcome = .ok d := by
  cases h
  rfl

end Service

/-! ## §2 — all services -/

/-- Diagnostics under the strict policy and under the lenient one: each report on several markers is
gone, or in its place stands the report of a tie on the same class; all others are as they were. -/
inductive Relaxed : List Diagnostic → List Diagnostic → Prop where
  | nil : Relaxed [] []
  | same {d : Diagnostic} {ds es : List Diagnostic}
      (other : d.code ≠ .multipleInjectionConstructors) (more : Relaxed ds es) :
      Relaxed (d :: ds) (d :: es)
  | removed {d : Diagnostic} {ds es : List Diagnostic}
      (markers : d.code = .multipleInjectionConstructors) (more : Relaxed ds es) :
      Relaxed (d :: ds) es
  | replaced {d e : Diagnostic} {ds es : List Diagnostic}
      (markers : d.code = .multipleInjectionConstructors) (tie : e.code = .ambiguousConstructor)
      (sameClass : e.args.head? = d.args.head?) (sameLocation : e.location = d.location)
      (more : Relaxed ds es) : Relaxed (d :: ds) (e :: es)

/-- Only several markers are reported as such. -/
theorem Service.Failure.code_report_of_ne {failure : Service.Failure} {service : Service}
    (h : ∀ marked, failure ≠ .rejected (.severalMarked marked)) :
    (failure.report service).code ≠ .multipleInjectionConstructors := by
  cases failure with
  | unnamedClass => nofun
  | unnamedServiceType => nofun
  | rejected rejection =>
    cases rejection with
    | noneQualifies => nofun
    | severalMarked marked => exact absurd rfl (h marked)
    | tied arity count => nofun

/-- Induction on the services, each of which puts its diagnostic in front of those after it. -/
theorem relaxed_diagnostics (services : List Service) :
    Relaxed (resolve services .strict).diagnostics (resolve services .fallThrough).diagnostics := by
  induction services with
  | nil => exact .nil
  | cons service services ih =>
    show Relaxed ((service :: services).filterMap (·.diagnostic? .strict))
      ((service :: services).filterMap (·.diagnostic? .fallThrough))
    have hservice := service.relaxes_resolve
    simp only [List.filterMap_cons, Service.diagnostic?]
    generalize service.resolve .strict = strict at hservice ⊢
    generalize service.resolve .fallThrough = lenient at hservice ⊢
    cases hservice with
    | same other =>
      cases strict with
      | ok d => exact ih
      | error failure =>
        refine .same (Service.Failure.code_report_of_ne fun marked heq => ?_) ih
        exact other marked (by rw [heq])
    | accepted => exact .removed rfl ih
    | tied => exact .replaced rfl rfl rfl rfl ih

/-- Nothing is refused for its markers any more. -/
theorem Relaxed.code_ne {ds es : List Diagnostic} (h : Relaxed ds es) :
    ∀ e ∈ es, e.code ≠ .multipleInjectionConstructors := by
  induction h with
  | nil => exact List.forall_mem_nil _
  | same other _ ih => exact List.forall_mem_cons.mpr ⟨other, ih⟩
  | removed _ _ ih => exact ih
  | replaced _ tie _ _ _ ih => exact List.forall_mem_cons.mpr ⟨by rw [tie]; nofun, ih⟩

/-- Resolved are the services that have a descriptor. -/
theorem mem_resolve_descriptors_iff {services : List Service} {policy : MarkerPolicy}
    {d : Descriptor} :
    d ∈ (resolve services policy).descriptors ↔
      ∃ service ∈ services, service.resolve policy = .ok d := by
  rw [resolve, List.mem_eraseDups, List.mem_filterMap]
  refine exists_congr fun service => and_congr_right fun _ => ?_
  cases service.resolve policy <;> simp [Except.toOption]

/-- **The lenient policy only adds.** -/
theorem resolve_lenient (services : List Service) :
    (∀ service ∈ services, ∀ d, service.resolve .strict = .ok d →
      service.resolve .fallThrough = .ok d) ∧
    (resolve services .strict).descriptors ⊆ (resolve services .fallThrough).descriptors ∧
    Relaxed (resolve services .strict).diagnostics (resolve services .fallThrough).diagnostics ∧
    ∀ d ∈ (resolve services .fallThrough).diagnostics,
      d.code ≠ .multipleInjectionConstructors := by
  have hkept : ∀ (service : Service) (d : Descriptor), service.resolve .strict = .ok d →
      service.resolve .fallThrough = .ok d := by
    intro service d hok
    -- an accepted service is not one that the strict policy refuses for its markers
    have hservice := service.relaxes_resolve
    rw [hok] at hservice
    exact hservice.ok
  refine ⟨fun service _ d => hkept service d, fun d hd => ?_, relaxed_diagnostics services,
    (relaxed_diagnostics services).code_ne⟩
  obtain ⟨service, hservice, hok⟩ := mem_resolve_descriptors_iff.mp hd
  exact mem_resolve_descriptors_iff.mpr ⟨service, hservice, hkept service d hok⟩

/-- Of three services the first has two markers, so under the strict policy the last one gives the
descriptor that the first one gives under the lenient policy; and a fourth one is tied. -/
theorem resolve_lenient_markers :
    let bare : Constructor := { isMarked := true }
    let full : Constructor := { parameters := [⟨"ILog"⟩], isMarked := true }
    let twice : Service := ⟨⟨"Game.Foo"⟩, ⟨"IFoo"⟩, .transient, [bare, full], none⟩
    let once : Service := ⟨⟨"Game.Foo"⟩, ⟨"IFoo"⟩, .transient, [full], none⟩
    let bar : Service := ⟨⟨"Bar"⟩, ⟨"IBar"⟩, .singleton, [{}], none⟩
    let tie : Service := ⟨⟨"Qux"⟩, ⟨"IQux"⟩, .perScope, [bare, bare], some ⟨"Qux.cs", 3, 14⟩⟩
    let services : List Service := [twice, bar, once, tie]
    bar.resolve .strict = .ok ⟨⟨"Bar"⟩, ⟨"IBar"⟩, .singleton, []⟩ ∧
      bar.resolve .fallThrough = .ok ⟨⟨"Bar"⟩, ⟨"IBar"⟩, .singleton, []⟩ ∧
      (resolve services .strict).descriptors.map (·.interface) = [⟨"IBar"⟩, ⟨"IFoo"⟩] ∧
      (resolve services .fallThrough).descriptors.map (·.interface) = [⟨"IFoo"⟩, ⟨"IBar"⟩] ∧
      (resolve services .strict).diagnostics.map (·.code) =
        [.multipleInjectionConstructors, .multipleInjectionConstructors] ∧
      (resolve services .fallThrough).diagnostics.map (·.code) = [.ambiguousConstructor] := by
  intro bare full twice once bar tie services
  have hbar : bar.resolve .strict = .ok ⟨⟨"Bar"⟩, ⟨"IBar"⟩, .singleton, []⟩ := rfl
  refine ⟨hbar, (resolve_lenient services).1 bar (by simp [services]) _ hbar, ?_⟩
  exact ⟨by decide, by decide, by decide, by decide⟩

end Registrar
