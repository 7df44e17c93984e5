import Registrar.Proofs.Pass.Outcomes

/-!
# Classes with several registrations

Two descriptors are the same registration only if they agree in all they hold. So a class that is
declared several times keeps one registration for each different descriptor that its declarations
yield, and whether classes are registered once is decided by the declarations alone.

* `Batch.Agrees` : the declarations of a class never yield different descriptors.
* `implementation_twice` : a class can be registered twice.
* `implementation_nodup_iff` : no class is if and only if the declarations agree.
-/

namespace Registrar

/-- The descriptor of a service implements its class. -/
theorem Service.implementation_of_outcome_eq_ok {service : Service} {policy : MarkerPolicy}
    {d : Descriptor} (h : service.outcome policy = .ok d) :
    d.implementation = service.className := by
  unfold outcome at h
  split at h
  · exact absurd h (by simp)
  · split at h
    · obtain rfl := Except.ok.inj h
      rfl
    · exact absurd h (by simp)

/-- Declarations of one class that succeed yield the same descriptor. -/
def Batch.Agrees (batch : Batch) (policy : MarkerPolicy) : Prop :=
  ∀ first ∈ batch.services, ∀ second ∈ batch.services, ∀ d e,
    first.outcome policy = .ok d → second.outcome policy = .ok e →
      first.className = second.className → d = e

theorem mem_compile_descriptors_iff {batch : Batch} {config : Config} {d : Descriptor} :
    d ∈ (compile batch config).descriptors ↔
      ∃ service ∈ batch.services, service.outcome config.markerPolicy = .ok d := by
  rw [(accounts_compile batch config).descriptors_perm.mem_iff, Batch.mem_made_iff]

/-- **A class that is declared under two service types is registered under both.** -/
theorem implementation_twice :
    let clock : Service := ⟨⟨"Clock"⟩, ⟨"IClock"⟩, .singleton, [{}], none⟩
    let timer : Service := ⟨⟨"Clock"⟩, ⟨"ITimer"⟩, .singleton, [{}], none⟩
    ¬ ((compile ⟨[clock, timer], []⟩ {}).descriptors.map (·.implementation)).Nodup := by
  intro clock timer hnodup
  have hclock : ⟨⟨"Clock"⟩, ⟨"IClock"⟩, .singleton, []⟩ ∈
      (compile ⟨[clock, timer], []⟩ {}).descriptors :=
    mem_compile_descriptors_iff.mpr ⟨clock, by simp, rfl⟩
  have htimer : ⟨⟨"Clock"⟩, ⟨"ITimer"⟩, .singleton, []⟩ ∈
      (compile ⟨[clock, timer], []⟩ {}).descriptors :=
    mem_compile_descriptors_iff.mpr ⟨timer, by simp, rfl⟩
  have heq := List.inj_on_of_nodup_map hnodup hclock htimer rfl
  exact absurd heq (by decide)

/-- **What is registered of a class is what its declarations yield, each descriptor once.** So no
class is registered twice if and only if the declarations of each class agree. -/
theorem implementation_nodup_iff (batch : Batch) (config : Config) :
    (compile batch config).descriptors.Nodup ∧
      (∀ d, d ∈ (compile batch config).descriptors ↔ ∃ service ∈ batch.services,
        service.className = d.implementation ∧ service.outcome config.markerPolicy = .ok d) ∧
      (((compile batch config).descriptors.map (·.implementation)).Nodup ↔
        batch.Agrees config.markerPolicy) := by
  have hnodup := (accounts_compile batch config).descriptors_nodup
  refine ⟨hnodup, ?_, ?_⟩
  · intro d
    rw [mem_compile_descriptors_iff]
    refine exists_congr fun service => and_congr_right fun _ => ?_
    refine ⟨fun h => ⟨(Service.implementation_of_outcome_eq_ok h).symm, h⟩, And.right⟩
  · rw [List.nodup_map_iff_inj_on hnodup]
    constructor
    -- both descriptors are registered, and no two registered ones share a class
    · intro hinj first hfirst second hsecond d e hd he hclass
      have hd' : d ∈ (compile batch config).descriptors :=
        mem_compile_descriptors_iff.mpr ⟨first, hfirst, hd⟩
      have he' : e ∈ (compile batch config).descriptors :=
        mem_compile_descriptors_iff.mpr ⟨second, hsecond, he⟩
      refine hinj d hd' e he' ?_
      rw [Service.implementation_of_outcome_eq_ok hd, Service.implementation_of_outcome_eq_ok he,
        hclass]
    · intro hagrees d hd e he himplementation
      obtain ⟨first, hfirst, hd⟩ := mem_compile_descriptors_iff.mp hd
      obtain ⟨second, hsecond, he⟩ := mem_compile_descriptors_iff.mp he
      refine hagrees first hfirst second hsecond d e hd he ?_
      rw [← Service.implementation_of_outcome_eq_ok hd, himplementation,
        Service.implementation_of_outcome_eq_ok he]

end Registrar
