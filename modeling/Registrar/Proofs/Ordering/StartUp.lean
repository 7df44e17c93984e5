import Registrar.Proofs.Ordering.Emission
import Registrar.Proofs.Ordering.Requires

/-!
# The order is safe at start-up

A singleton is built when it is registered, so all that it requires has to be registered by then.
The order of registrations achieves this for every singleton for which it can be achieved: only
those that lead to a cycle of requirements are left, and they follow at the end.

* `StartUpOrder` : what such an order is, in terms of positions in the list of descriptors.
* `startUpOrder_emission` : the emission gives such an order.
* `order_descriptors_perm` : nothing is lost and nothing is registered twice, under any policy.
* `exists_startUpOrder` : the order of registrations is such an order.
-/

namespace Registrar.Ordering

open Relation

/-- The positions of a list of descriptors, divided into those that are in order and those that
cannot be. -/
structure StartUpOrder (descriptors : List Descriptor)
    (ordered blocked : List (Fin descriptors.length)) : Prop where
  /-- Every position is used, and only once. -/
  perm : (ordered ++ blocked).Perm (List.finRange descriptors.length)
  /-- Whatever a singleton requires stands before it. -/
  comesAfter : ComesAfter (Requires descriptors) ordered
  /-- Blocked are the singletons that lead to a singleton on a cycle, in any number of steps. -/
  mem_blocked_iff : ∀ i, i ∈ blocked ↔ IsSingleton descriptors i ∧
    ∃ k, IsSingleton descriptors k ∧ ReflTransGen (Requires descriptors) i k ∧
      TransGen (Requires descriptors) k k
  /-- The blocked ones stand as in the list of descriptors. -/
  blocked_rising : blocked.Pairwise (· < ·)

/-! ## §1 — the emission of a list of descriptors -/

/-- The constraints under which a list of descriptors is put in order. -/
def constraints (descriptors : List Descriptor) : Constraints descriptors.length :=
  .ofGraph (.ofDescriptors (toVector descriptors))

theorem matched_constraints (descriptors : List Descriptor) : (constraints descriptors).Matched :=
  Constraints.matched_ofBefore _

theorem waitsFor_constraints (descriptors : List Descriptor) :
    (constraints descriptors).WaitsFor = Requires descriptors := by
  funext i j
  rw [eq_iff_iff, constraints, Constraints.waitsFor_ofGraph_iff, mem_before_ofDescriptors_iff]

/-- What starts a way of requirements to a cycle, or is on it, is a singleton. -/
theorem isSingleton_of_requires_cycle {descriptors : List Descriptor}
    {i k : Fin descriptors.length} (hik : ReflTransGen (Requires descriptors) i k)
    (hkk : TransGen (Requires descriptors) k k) : IsSingleton descriptors i := by
  obtain ⟨_, hstep, -⟩ := TransGen.head'_iff.mp (TransGen.trans_right hik hkk)
  exact hstep.isSingleton

/-- Blocked are the singletons from which a cycle of requirements is reached. -/
theorem mem_blocked_constraints_iff {descriptors : List Descriptor}
    {i : Fin descriptors.length} :
    i ∈ (constraints descriptors).finish.blocked ↔ IsSingleton descriptors i ∧
      ∃ k, IsSingleton descriptors k ∧ ReflTransGen (Requires descriptors) i k ∧
        TransGen (Requires descriptors) k k := by
  rw [Constraints.mem_blocked_iff_cycle (matched_constraints descriptors),
    waitsFor_constraints]
  refine ⟨?_, ?_⟩
  -- the cycle is one of requirements, so both ends are singletons
  · rintro ⟨k, hik, hkk⟩
    exact ⟨isSingleton_of_requires_cycle hik hkk, k, isSingleton_of_requires_cycle .refl hkk,
      hik, hkk⟩
  · rintro ⟨-, k, -, hik, hkk⟩
    exact ⟨k, hik, hkk⟩

/-- **The emission puts the descriptors in order.** -/
theorem startUpOrder_emission (descriptors : List Descriptor) :
    StartUpOrder descriptors (constraints descriptors).finish.emitted
      (constraints descriptors).finish.blocked := by
  have hmatched := matched_constraints descriptors
  refine ⟨Constraints.emitted_append_blocked_perm hmatched, ?_,
    fun _ => mem_blocked_constraints_iff, Constraints.blocked_rising _⟩
  rw [← waitsFor_constraints]
  exact (Constraints.counted_finish hmatched).emitted_comesAfter

/-! ## §2 — the order of registrations -/

variable (descriptors : List Descriptor) (locate : TypeName → Option Location)

theorem order_dependencyOrder_descriptors :
    (order descriptors .dependencyOrder locate).descriptors =
      ((constraints descriptors).finish.emitted ++
        (constraints descriptors).finish.blocked).map descriptors.get := rfl

/-- **Nothing is lost and nothing is registered twice**, whichever way the registrations are
ordered. -/
theorem order_descriptors_perm (policy : OrderingPolicy) :
    (order descriptors policy locate).descriptors.Perm descriptors := by
  cases policy with
  | firstSeen => exact .refl _
  | dependencyOrder =>
    rw [order_dependencyOrder_descriptors]
    have hperm := (startUpOrder_emission descriptors).perm.map descriptors.get
    rwa [List.map_get_finRange] at hperm

/-- **Start-up safety.** The registrations are put into an order in which every singleton comes
after all that it requires; left for the end, in the order of the list, are the singletons from
which a cycle of requirements is reached, and no others. -/
theorem exists_startUpOrder :
    ∃ ordered blocked, StartUpOrder descriptors ordered blocked ∧
      (order descriptors .dependencyOrder locate).descriptors =
        (ordered ++ blocked).map descriptors.get :=
  ⟨_, _, startUpOrder_emission descriptors, order_dependencyOrder_descriptors descriptors locate⟩

end Registrar.Ordering
