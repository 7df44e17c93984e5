import Registrar.Proofs.Ordering.Search
import Registrar.Proofs.Ordering.StartUp

/-!
# The chains that are reported

Singletons that need each other are reported as chains. What is blocked holds more than those that
are on a cycle, and a singleton that a chain shows already gets none of its own; still every
singleton on a cycle is shown, because a search that starts at it finds a way back.

* `CycleChain` : what a chain is.
* `CycleReport` : what all chains together show.
* `Graph.exists_mem_cycles` : no singleton on a cycle is passed over.
* `exists_cycleReport` : the diagnostics of the order are such a report.
-/

namespace Registrar.Ordering

open Relation

/-- A chain of registrations, each of which asks for the next one, and which comes back to the
singleton that it starts from. -/
structure CycleChain (descriptors : List Descriptor) (chain : List (Fin descriptors.length)) :
    Prop where
  two_le_length : 2 ≤ chain.length
  closed : ∃ i, IsSingleton descriptors i ∧ chain.head? = some i ∧ chain.getLast? = some i
  asks : chain.IsChain (Asks descriptors)

/-- Chains that show the cycles of a list of descriptors, of which `blocked` are left for the
end. -/
structure CycleReport (descriptors : List Descriptor) (blocked : List (Fin descriptors.length))
    (chains : List (List (Fin descriptors.length))) : Prop where
  cycleChain : ∀ chain ∈ chains, CycleChain descriptors chain
  /-- No chain starts from a registration that an earlier one shows. -/
  fresh : chains.Pairwise fun earlier later => ∀ i ∈ later.head?, i ∉ earlier
  /-- The chains stand in the order of the registrations that they start from. -/
  rising : chains.Pairwise fun earlier later =>
    ∀ i ∈ earlier.head?, ∀ j ∈ later.head?, i < j
  /-- The singletons that are shown are those that can be come back to by asking. -/
  shown_iff : ∀ i, IsSingleton descriptors i →
    ((∃ chain ∈ chains, i ∈ chain) ↔ TransGen (Asks descriptors) i i)
  /-- There is a chain whenever something is left for the end. -/
  ne_nil_iff : chains ≠ [] ↔ blocked ≠ []

/-! ## §1 — the chains of a graph -/

namespace Graph

variable {n : Nat} {g : Graph n} {shown starts : List (Fin n)} {chain : List (Fin n)}

/-- Where a chain comes from: it was found from one of the starts that no chain had shown. -/
theorem exists_of_mem_cycles (h : chain ∈ g.cycles shown starts) :
    ∃ i ∈ starts, i ∉ shown ∧ g.eager.get i = true ∧ g.shortestCycle i = some chain := by
  fun_induction cycles g shown starts with
  | case1 shown => exact absurd h List.not_mem_nil
  | case2 shown start rest hskip ih =>
    obtain ⟨i, hi, hnot, heager, hfound⟩ := ih h
    exact ⟨i, List.mem_cons_of_mem _ hi, hnot, heager, hfound⟩
  | case3 shown start rest hskip found hfound ih =>
    -- the start is a singleton that no chain has shown, so it was searched from
    rw [not_or, not_not] at hskip
    rcases List.mem_cons.mp h with rfl | h
    · exact ⟨start, List.mem_cons_self, hskip.1, hskip.2, hfound⟩
    · obtain ⟨i, hi, hnot, heager, hchain⟩ := ih h
      exact ⟨i, List.mem_cons_of_mem _ hi, fun hs => hnot (List.mem_append_left _ hs), heager,
        hchain⟩
  | case4 shown start rest hskip hfound ih =>
    obtain ⟨i, hi, hnot, heager, hchain⟩ := ih h
    exact ⟨i, List.mem_cons_of_mem _ hi, hnot, heager, hchain⟩

theorem head?_of_mem_cycles (h : chain ∈ g.cycles shown starts) :
    ∃ i ∈ starts, i ∉ shown ∧ chain.head? = some i := by
  obtain ⟨i, hi, hnot, -, hfound⟩ := exists_of_mem_cycles h
  exact ⟨i, hi, hnot, (shortestCycle_eq_some hfound).1.head?⟩

/-- No chain starts from a position that an earlier one shows. -/
theorem cycles_fresh (g : Graph n) (shown starts : List (Fin n)) :
    (g.cycles shown starts).Pairwise fun earlier later => ∀ i ∈ later.head?, i ∉ earlier := by
  fun_induction cycles g shown starts with
  | case1 shown => exact .nil
  | case2 shown start rest hskip ih => exact ih
  | case3 shown start rest hskip found hfound ih =>
    refine List.pairwise_cons.mpr ⟨?_, ih⟩
    intro later hlater i hi
    -- the later chain starts from somebody that was not shown when it was looked for
    obtain ⟨j, -, hnot, hj⟩ := head?_of_mem_cycles hlater
    rw [hj] at hi
    obtain rfl := Option.some.inj hi
    exact fun hmem => hnot (List.mem_append_right _ hmem)
  | case4 shown start rest hskip hfound ih => exact ih

/-- The chains start from rising positions if the starts rise. -/
theorem cycles_rising (g : Graph n) (shown : List (Fin n)) {starts : List (Fin n)}
    (h : starts.Pairwise (· < ·)) :
    (g.cycles shown starts).Pairwise fun earlier later =>
      ∀ i ∈ earlier.head?, ∀ j ∈ later.head?, i < j := by
  fun_induction cycles g shown starts with
  | case1 shown => exact .nil
  | case2 shown start rest hskip ih => exact ih (List.pairwise_cons.mp h).2
  | case3 shown start rest hskip found hfound ih =>
    obtain ⟨hstart, hrest⟩ := List.pairwise_cons.mp h
    refine List.pairwise_cons.mpr ⟨?_, ih hrest⟩
    intro later hlater i hi j hj
    obtain ⟨k, hk, -, hhead⟩ := head?_of_mem_cycles hlater
    rw [(shortestCycle_eq_some hfound).1.head?] at hi
    rw [hhead] at hj
    obtain rfl := Option.some.inj hi
    obtain rfl := Option.some.inj hj
    -- the later chain starts from one of the starts that are left
    exact hstart k hk
  | case4 shown start rest hskip hfound ih => exact ih (List.pairwise_cons.mp h).2

/-- **No singleton on a cycle is passed over**: among the starts it is shown by a chain, if none
had shown it before. -/
theorem exists_mem_cycles (g : Graph n) (shown : List (Fin n)) {starts : List (Fin n)} {i : Fin n}
    (hi : i ∈ starts) (heager : g.eager.get i = true) (hcycle : TransGen g.Needs i i) :
    i ∈ shown ∨ ∃ chain ∈ g.cycles shown starts, i ∈ chain := by
  fun_induction cycles g shown starts with
  | case1 shown => exact absurd hi List.not_mem_nil
  | case2 shown start rest hskip ih =>
    rcases List.mem_cons.mp hi with rfl | hi
    · -- a singleton is passed over only if a chain has shown it
      exact Or.inl (hskip.resolve_right (not_not_intro heager))
    · exact ih hi
  | case3 shown start rest hskip found hfound ih =>
    have hwalk := (shortestCycle_eq_some hfound).1
    rcases List.mem_cons.mp hi with rfl | hi
    · exact Or.inr ⟨found, List.mem_cons_self, List.mem_of_mem_head? hwalk.head?⟩
    -- it may have been shown by the chain that was just found
    · rcases ih hi with hmem | ⟨chain, hchain, hmem⟩
      · rcases List.mem_append.mp hmem with hmem | hmem
        · exact Or.inl hmem
        · exact Or.inr ⟨found, List.mem_cons_self, hmem⟩
      · exact Or.inr ⟨chain, List.mem_cons_of_mem _ hchain, hmem⟩
  | case4 shown start rest hskip hfound ih =>
    rcases List.mem_cons.mp hi with rfl | hi
    · exact absurd hcycle (shortestCycle_eq_none_iff.mp hfound)
    · exact ih hi

end Graph

/-! ## §2 — the chains of a list of descriptors -/

variable (descriptors : List Descriptor)

/-- The chains that the order of registrations reports. -/
def chains : List (List (Fin descriptors.length)) :=
  (Graph.ofDescriptors (toVector descriptors)).cycles [] (constraints descriptors).finish.blocked

variable {descriptors}

/-- A chain is a walk along what registrations ask for, from a singleton back to itself. -/
theorem exists_walk_of_mem_chains {chain : List (Fin descriptors.length)}
    (h : chain ∈ chains descriptors) :
    ∃ i, IsSingleton descriptors i ∧ Walk (Asks descriptors) i i chain ∧ 2 ≤ chain.length := by
  obtain ⟨i, -, -, heager, hfound⟩ := Graph.exists_of_mem_cycles h
  obtain ⟨hwalk, hlength⟩ := Graph.shortestCycle_eq_some hfound
  rw [needs_ofDescriptors] at hwalk
  exact ⟨i, eager_ofDescriptors_iff.mp heager, hwalk, hlength⟩

theorem cycleChain_of_mem_chains {chain : List (Fin descriptors.length)}
    (h : chain ∈ chains descriptors) : CycleChain descriptors chain := by
  obtain ⟨i, hi, hwalk, hlength⟩ := exists_walk_of_mem_chains h
  exact ⟨hlength, ⟨i, hi, hwalk.head?, hwalk.getLast?⟩, hwalk.isChain⟩

/-- A singleton that can be come back to by asking waits for itself, so it is blocked. -/
theorem blocked_of_asks_cycle {i : Fin descriptors.length} (hi : IsSingleton descriptors i)
    (hcycle : TransGen (Asks descriptors) i i) :
    i ∈ (constraints descriptors).finish.blocked :=
  mem_blocked_constraints_iff.mpr
    ⟨hi, i, hi, .refl, Requires.transGen_self_iff.mpr ⟨hi, hcycle⟩⟩

/-- A singleton is shown by a chain exactly if it can be come back to by asking. -/
theorem exists_mem_chains_iff {i : Fin descriptors.length} (hi : IsSingleton descriptors i) :
    (∃ chain ∈ chains descriptors, i ∈ chain) ↔ TransGen (Asks descriptors) i i := by
  refine ⟨?_, ?_⟩
  · rintro ⟨chain, hchain, hmem⟩
    obtain ⟨_, -, hwalk, hlength⟩ := exists_walk_of_mem_chains hchain
    exact hwalk.transGen_self_of_mem hlength hmem
  · intro hcycle
    refine (Graph.exists_mem_cycles _ [] (blocked_of_asks_cycle hi hcycle)
      (eager_ofDescriptors_iff.mpr hi) ?_).resolve_left List.not_mem_nil
    rw [needs_ofDescriptors]
    exact hcycle

/-- There is a chain whenever a registration is blocked: one that leads to a cycle. -/
theorem chains_ne_nil_iff :
    chains descriptors ≠ [] ↔ (constraints descriptors).finish.blocked ≠ [] := by
  refine ⟨?_, ?_⟩
  · intro hne hnil
    obtain ⟨chain, hchain⟩ := List.exists_mem_of_ne_nil _ hne
    obtain ⟨i, hi, -⟩ := Graph.exists_of_mem_cycles hchain
    rw [hnil] at hi
    exact List.not_mem_nil hi
  · intro hne
    obtain ⟨i, hi⟩ := List.exists_mem_of_ne_nil _ hne
    -- `i` need not be on a cycle itself, but it leads to some `k` that is
    obtain ⟨-, k, hk, -, hcycle⟩ := mem_blocked_constraints_iff.mp hi
    obtain ⟨chain, hchain, -⟩ :=
      (exists_mem_chains_iff hk).mpr (Requires.transGen_self_iff.mp hcycle).2
    exact List.ne_nil_of_mem hchain

/-- The chains are a report on the cycles, beside the blocked registrations. -/
theorem cycleReport_chains (descriptors : List Descriptor) :
    CycleReport descriptors (constraints descriptors).finish.blocked (chains descriptors) where
  cycleChain := fun _ => cycleChain_of_mem_chains
  fresh := Graph.cycles_fresh _ _ _
  rising := Graph.cycles_rising _ _ (Constraints.blocked_rising _)
  shown_iff := fun _ => exists_mem_chains_iff
  ne_nil_iff := chains_ne_nil_iff

/-! ## §3 — the diagnostics of the order -/

/-- The diagnostic for a chain of registrations, at the place of the first of them. -/
def chainDiagnostic (locate : TypeName → Option Location)
    (chain : List (Fin descriptors.length)) : Diagnostic :=
  (Diagnostic.Finding.cyclicSingletonDependency
    (chain.map fun i => (descriptors.get i).implementation)).report
      (chain.head?.bind fun i => locate (descriptors.get i).implementation)

/-- The diagnostics of the order are those for its chains. -/
theorem order_dependencyOrder_diagnostics (locate : TypeName → Option Location) :
    (order descriptors .dependencyOrder locate).diagnostics =
      (chains descriptors).map (chainDiagnostic locate) := by
  show (chains descriptors).map (reportCycle (toVector descriptors) locate) = _
  refine List.map_congr_left fun chain _ => ?_
  cases chain <;> rfl

/-- Whatever the order reports is a cycle, and only an order by dependencies reports any. -/
theorem code_of_mem_order_diagnostics {policy : OrderingPolicy}
    {locate : TypeName → Option Location} {d : Diagnostic}
    (h : d ∈ (order descriptors policy locate).diagnostics) :
    d.code = .cyclicSingletonDependency ∧ policy = .dependencyOrder := by
  cases policy with
  | firstSeen => exact absurd h List.not_mem_nil
  | dependencyOrder =>
    rw [order_dependencyOrder_diagnostics] at h
    obtain ⟨chain, -, rfl⟩ := List.mem_map.mp h
    exact ⟨rfl, rfl⟩

/-- **The cycle reports are sound and complete.** Beside an order that is safe at start-up, the
diagnostics show chains that are cycles, each from a singleton that was not shown before, and
every singleton on a cycle is on one of them. -/
theorem exists_cycleReport (descriptors : List Descriptor) (locate : TypeName → Option Location) :
    ∃ ordered blocked chains,
      StartUpOrder descriptors ordered blocked ∧ CycleReport descriptors blocked chains ∧
      order descriptors .dependencyOrder locate =
        { descriptors := (ordered ++ blocked).map descriptors.get
          diagnostics := chains.map (chainDiagnostic locate) } := by
  refine ⟨_, _, chains descriptors, startUpOrder_emission descriptors,
    cycleReport_chains descriptors, ?_⟩
  rw [← order_dependencyOrder_diagnostics, ← order_dependencyOrder_descriptors descriptors locate]

/-- A singleton and a factory that ask for each other: the factory is registered first. -/
example :
    order [⟨⟨"A"⟩, ⟨"IA"⟩, .singleton, [⟨"IB"⟩]⟩, ⟨⟨"B"⟩, ⟨"IB"⟩, .transient, [⟨"IA"⟩]⟩]
        .dependencyOrder (fun _ => none) =
      { descriptors :=
          [⟨⟨"B"⟩, ⟨"IB"⟩, .transient, [⟨"IA"⟩]⟩, ⟨⟨"A"⟩, ⟨"IA"⟩, .singleton, [⟨"IB"⟩]⟩]
        diagnostics :=
          [(Diagnostic.Finding.cyclicSingletonDependency [⟨"A"⟩, ⟨"B"⟩, ⟨"A"⟩]).report none] } := by
  cbv

end Registrar.Ordering
