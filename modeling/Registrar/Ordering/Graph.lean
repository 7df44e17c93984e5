import Registrar.Descriptor
import Registrar.Ordering.Marks

/-!
# What a registration needs

Registrations are numbered by their positions in a list. One needs another when the other's
interface is among the types that its constructor asks for. Registering a singleton builds it at
once, so whatever its construction reaches has to be registered before: the registrations that it
needs, and those that they need in turn, except that a singleton is already built and is not gone
into again.

* `mem_needs_iff` : needing, in terms of descriptors.
-/

namespace Registrar.Ordering

variable {n : Nat}

/-- Who needs whom, and who is built at once. -/
structure Graph (n : Nat) where
  /-- The registrations that each one needs: for one parameter after the other, its providers,
  rising; each of them once. -/
  needs : Vector (List (Fin n)) n
  /-- Whether registering builds. -/
  eager : Vector Bool n

namespace Graph

/-- The registrations with this interface, rising. -/
def providers (descriptors : Vector Descriptor n) (type : TypeName) : List (Fin n) :=
  (List.finRange n).filter fun i => (descriptors.get i).interface = type

def ofDescriptors (descriptors : Vector Descriptor n) : Graph n :=
  { needs := descriptors.map fun d => (d.parameters.flatMap (providers descriptors)).eraseDups
    eager := descriptors.map fun d => d.lifetime.isEager }

/-- The registrations that building reaches: those marked already, and those that can be come to
from the pending ones without going on from a singleton. -/
def sweep (g : Graph n) (seen : Marks n) : List (Fin n) → Marks n
  | [] => seen
  | i :: pending =>
    if i ∈ seen then g.sweep seen pending
    else g.sweep (seen.add i) (if g.eager.get i then pending else g.needs.get i ++ pending)
termination_by pending => (seen.free, pending.length)
decreasing_by
  · exact Prod.Lex.right _ (by simp)
  · exact Prod.Lex.left _ _ (Marks.free_add_lt (by assumption))

/-- The registrations that have to come before `i`. -/
def before (g : Graph n) (i : Fin n) : Marks n :=
  if g.eager.get i then g.sweep .none (g.needs.get i) else .none

@[simp] theorem mem_providers_iff {descriptors : Vector Descriptor n} {type : TypeName}
    {i : Fin n} : i ∈ providers descriptors type ↔ (descriptors.get i).interface = type := by
  simp [providers]

theorem eager_ofDescriptors (descriptors : Vector Descriptor n) (i : Fin n) :
    (ofDescriptors descriptors).eager.get i = (descriptors.get i).lifetime.isEager := by
  simp [ofDescriptors, get_eq_getElem]

/-- A position needs those that provide what its descriptor asks for. -/
theorem mem_needs_iff {descriptors : Vector Descriptor n} {i j : Fin n} :
    j ∈ (ofDescriptors descriptors).needs.get i ↔
      (descriptors.get j).interface ∈ (descriptors.get i).parameters := by
  simp [ofDescriptors, get_eq_getElem, List.mem_eraseDups]

end Graph

end Registrar.Ordering
