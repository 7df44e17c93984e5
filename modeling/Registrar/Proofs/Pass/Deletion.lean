import Mathlib.Data.List.Induction
import Registrar.Proofs.Pass.Outcomes

/-!
# Declarations that leave no trace

A service that fails registers nothing, and one that gives the descriptor of an earlier service
registers nothing new; the same goes for scope roots without a name and for those met before. So
such declarations can be deleted from a batch, any set of them at once, and the pass generates the
same files. Of the diagnostics only those of deleted services are gone; and since a class is shown
where it is declared first, a cycle may be shown at another place.

* `keepAt` : some entries of a list, by their places.
* `eraseDups_filterMap_keepAt` : entries that say nothing new can be left out.
* `Batch.Traceless` : what is deleted from a batch leaves no trace.
* `compile_keepAt` : the pass over what is left.
-/

namespace Registrar

/-! ## §1 — lists with some entries left out -/

section

variable {α β : Type} {keep : Nat → Bool} {list : List α}

/-- The entries at the places that are kept. -/
def keepAt (keep : Nat → Bool) (list : List α) : List α :=
  (list.zipIdx.filter fun entry => keep entry.2).map (·.1)

theorem keepAt_append_singleton (last : α) :
    keepAt keep (list ++ [last]) =
      keepAt keep list ++ if keep list.length then [last] else [] := by
  cases hkeep : keep list.length <;> simp [keepAt, List.zipIdx_append, hkeep]

/-- What is left out says nothing, or what an earlier entry says that is kept. -/
def Dispensable (f : α → Option β) (keep : Nat → Bool) (list : List α) : Prop :=
  ∀ i a, list[i]? = some a → keep i = false →
    f a = none ∨ ∃ j earlier, j < i ∧ keep j = true ∧ list[j]? = some earlier ∧ f earlier = f a

/-- What is said of a list holds of its front: nothing that stands later is repeated. -/
theorem Dispensable.of_append {f : α → Option β} {more : List α}
    (h : Dispensable f keep (list ++ more)) : Dispensable f keep list := by
  intro i a ha hi
  have hlt : i < list.length := (List.getElem?_eq_some_iff.mp ha).1
  rcases h i a (by rwa [List.getElem?_append_left hlt]) hi with hnone | ⟨j, earlier, hj, hrest⟩
  · exact Or.inl hnone
  · rw [List.getElem?_append_left (by omega)] at hrest
    exact Or.inr ⟨j, earlier, hj, hrest⟩

/-- **What says nothing new can be left out.** Induction from the back: whatever an entry repeats
stands before it. -/
theorem eraseDups_filterMap_keepAt [BEq β] [LawfulBEq β] {f : α → Option β}
    (h : Dispensable f keep list) :
    ((keepAt keep list).filterMap f).eraseDups = (list.filterMap f).eraseDups := by
  induction list using List.reverseRecOn with
  | nil => rfl
  | append_singleton list last ih =>
    have hfront := ih h.of_append
    rw [keepAt_append_singleton, List.filterMap_append, List.filterMap_append]
    -- what was said in the front and what is left of it are the same, so both ask the same of the
    -- last entry
    have hmem : ∀ b, b ∈ (keepAt keep list).filterMap f ↔ b ∈ list.filterMap f := by
      intro b
      rw [← List.mem_eraseDups, hfront, List.mem_eraseDups]
    cases hkeep : keep list.length with
    | true =>
      -- both lists go on with the same entry, and it is new to both or to none
      rw [if_pos rfl]
      cases hlast : f last with
      | none => simpa [hlast] using hfront
      | some b =>
        have hone : [last].filterMap f = [b] := by simp [hlast]
        rw [hone, eraseDups_append_singleton, eraseDups_append_singleton, hfront]
        simp only [hmem]
    | false =>
      rw [if_neg Bool.false_ne_true, List.filterMap_nil, List.append_nil, hfront]
      have hplace : (list ++ [last])[list.length]? = some last := by simp
      rcases h list.length last hplace hkeep with hnone | ⟨j, earlier, hj, -, hearlier, heq⟩
      · simp [hnone]
      · -- what it says was said in the front already
        rw [List.getElem?_append_left hj] at hearlier
        cases hlast : f last with
        | none => simp [hlast]
        | some b =>
          have hb : b ∈ list.filterMap f :=
            List.mem_filterMap.mpr ⟨earlier, List.mem_of_getElem? hearlier, heq.trans hlast⟩
          have hone : [last].filterMap f = [b] := by simp [hlast]
          rw [hone, eraseDups_append_singleton, if_pos hb, List.append_nil]

end

/-! ## §2 — batches with some declarations left out -/

namespace Batch

/-- A batch with the services and the scope roots at the places that are kept. -/
def keepAt (batch : Batch) (keepService keepRoot : Nat → Bool) : Batch :=
  ⟨Registrar.keepAt keepService batch.services, Registrar.keepAt keepRoot batch.scopeRoots⟩

/-- What is left out of a batch leaves no trace: services that fail or that repeat the descriptor
of an earlier service that is kept, and scope roots without a name or with the name of an earlier
one that is kept. -/
structure Traceless (batch : Batch) (policy : MarkerPolicy) (keepService keepRoot : Nat → Bool) :
    Prop where
  services : ∀ i service, batch.services[i]? = some service → keepService i = false →
    (∃ diagnostic, service.outcome policy = .error diagnostic) ∨
      ∃ j earlier descriptor, j < i ∧ keepService j = true ∧ batch.services[j]? = some earlier ∧
        earlier.outcome policy = .ok descriptor ∧ service.outcome policy = .ok descriptor
  scopeRoots : ∀ i root, batch.scopeRoots[i]? = some root → keepRoot i = false →
    root.className.isEmpty = true ∨
      ∃ j earlier, j < i ∧ keepRoot j = true ∧ batch.scopeRoots[j]? = some earlier ∧
        earlier.className = root.className

variable {batch : Batch} {policy : MarkerPolicy} {keepService keepRoot : Nat → Bool}

/-- What is left of a batch yields the same descriptors. -/
theorem Traceless.made_eq (h : batch.Traceless policy keepService keepRoot) :
    (batch.keepAt keepService keepRoot).made policy = batch.made policy := by
  refine eraseDups_filterMap_keepAt fun i service hservice hi => ?_
  rcases h.services i service hservice hi with
    ⟨diagnostic, hfailed⟩ | ⟨j, earlier, descriptor, hj, hkeep, hearlier, hfirst, hsecond⟩
  · exact Or.inl (by rw [Service.made?, hfailed])
  · refine Or.inr ⟨j, earlier, hj, hkeep, hearlier, ?_⟩
    rw [Service.made?, Service.made?, hfirst, hsecond]

/-- The name of a scope root, if it has one. -/
def rootName? (root : ScopeRoot) : Option TypeName :=
  if root.className.isEmpty then none else some root.className

/-- The distinct scope roots are the distinct names among them. -/
theorem distinctRoots_eq (roots : List ScopeRoot) :
    Code.distinctRoots roots = (roots.filterMap rootName?).eraseDups := by
  have hnames : (roots.map (·.className)).filter (!·.isEmpty) = roots.filterMap rootName? := by
    induction roots with
    | nil => rfl
    | cons root roots ih =>
      cases hempty : root.className.isEmpty <;> simp [rootName?, hempty, ih]
  rw [Code.distinctRoots, hnames]

/-- What is left of a batch has the same distinct scope roots. -/
theorem Traceless.distinctRoots_eq (h : batch.Traceless policy keepService keepRoot) :
    Code.distinctRoots (batch.keepAt keepService keepRoot).scopeRoots =
      Code.distinctRoots batch.scopeRoots := by
  rw [Batch.distinctRoots_eq, Batch.distinctRoots_eq]
  refine eraseDups_filterMap_keepAt fun i root hroot hi => ?_
  rcases h.scopeRoots i root hroot hi with hempty | ⟨j, earlier, hj, hkeep, hearlier, hname⟩
  · exact Or.inl (by rw [rootName?, if_pos hempty])
  · exact Or.inr ⟨j, earlier, hj, hkeep, hearlier, by rw [rootName?, rootName?, hname]⟩

end Batch

/-! ## §3 — the pass -/

/-- A diagnostic wherever its class is declared. -/
def Diagnostic.unlocated (d : Diagnostic) : Diagnostic := { d with location := none }

/-- Where classes stand has no part in the order, and in the diagnostics only as their place. -/
theorem order_locate (descriptors : List Descriptor) (policy : OrderingPolicy)
    (locate locate' : TypeName → Option Location) :
    (order descriptors policy locate).descriptors = (order descriptors policy locate').descriptors ∧
      (order descriptors policy locate).diagnostics.map Diagnostic.unlocated =
        (order descriptors policy locate').diagnostics.map Diagnostic.unlocated := by
  cases policy with
  | firstSeen => exact ⟨rfl, rfl⟩
  | dependencyOrder =>
    refine ⟨rfl, ?_⟩
    rw [Ordering.order_dependencyOrder_diagnostics, Ordering.order_dependencyOrder_diagnostics,
      List.map_map, List.map_map]
    rfl

/-- The lifecycle is written from the distinct scope roots only. -/
theorem scopeLifecycle_congr {roots roots' : List ScopeRoot} (options : Code.Options)
    (h : Code.distinctRoots roots = Code.distinctRoots roots') :
    Code.scopeLifecycle roots options = Code.scopeLifecycle roots' options := by
  rw [Code.scopeLifecycle, h]
  rfl

theorem compile_sources (batch : Batch) (config : Config) :
    (compile batch config).sources =
      generatedSources config (compile batch config).descriptors batch.scopeRoots := rfl

/-- **Declarations that leave no trace can be deleted.** -/
theorem compile_keepAt (batch : Batch) (config : Config) {keepService keepRoot : Nat → Bool}
    (h : batch.Traceless config.markerPolicy keepService keepRoot) :
    (compile (batch.keepAt keepService keepRoot) config).descriptors =
        (compile batch config).descriptors ∧
      (compile (batch.keepAt keepService keepRoot) config).sources =
        (compile batch config).sources ∧
      ∃ cycles cycles',
        (compile batch config).diagnostics.toList =
          batch.services.filterMap (·.failed? config.markerPolicy) ++ cycles ∧
        (compile (batch.keepAt keepService keepRoot) config).diagnostics.toList =
          (keepAt keepService batch.services).filterMap (·.failed? config.markerPolicy) ++
            cycles' ∧
        cycles'.map Diagnostic.unlocated = cycles.map Diagnostic.unlocated ∧
        ∀ d ∈ cycles ++ cycles', d.code = .cyclicSingletonDependency := by
  obtain ⟨hordered, hcycles⟩ := order_locate (batch.made config.markerPolicy) config.ordering
    (batch.keepAt keepService keepRoot).locate batch.locate
  have hdescriptors : (compile (batch.keepAt keepService keepRoot) config).descriptors =
      (compile batch config).descriptors := by
    rw [compile_descriptors, compile_descriptors, h.made_eq, hordered]
  refine ⟨hdescriptors, ?_, _, _, toList_compile_diagnostics batch config,
    toList_compile_diagnostics _ config, ?_, ?_⟩
  · rw [compile_sources, compile_sources, hdescriptors, generatedSources, generatedSources,
      scopeLifecycle_congr config.code h.distinctRoots_eq]
  · rw [h.made_eq]
    exact hcycles
  · intro d hd
    rcases List.mem_append.mp hd with hd | hd
    · exact (Ordering.code_of_mem_order_diagnostics hd).1
    · exact (Ordering.code_of_mem_order_diagnostics hd).1

/-- Of a service, a class of the same name without a constructor and the service once more, the
first one is enough; so is the first of two scope roots of which the second has no name. -/
theorem compile_keepAt_first :
    let log : Service := ⟨⟨"Log"⟩, ⟨"ILog"⟩, .singleton, [{}], none⟩
    let broken : Service := ⟨⟨"Log"⟩, ⟨"ILog"⟩, .singleton, [], none⟩
    let batch : Batch := ⟨[log, broken, log], [⟨⟨"Main"⟩, none⟩, ⟨⟨""⟩, none⟩]⟩
    batch.Traceless .strict (· == 0) (· == 0) ∧
      (compile (batch.keepAt (· == 0) (· == 0)) {}).sources = (compile batch {}).sources := by
  intro log broken batch
  have htraceless : batch.Traceless .strict (· == 0) (· == 0) := by
    refine ⟨fun i service hservice hi => ?_, fun i root hroot hi => ?_⟩
    · match i with
      | 0 => exact absurd hi (by decide)
      | 1 =>
        obtain rfl := Option.some.inj hservice
        exact Or.inl ⟨_, rfl⟩
      | 2 =>
        obtain rfl := Option.some.inj hservice
        exact Or.inr ⟨0, log, _, by decide, rfl, rfl, rfl, rfl⟩
      | i + 3 => exact absurd hservice (by simp [batch])
    · match i with
      | 0 => exact absurd hi (by decide)
      | 1 =>
        obtain rfl := Option.some.inj hroot
        exact Or.inl (by decide)
      | i + 2 => exact absurd hroot (by simp [batch])
  exact ⟨htraceless, (compile_keepAt batch {} htraceless).2.1⟩

end Registrar
