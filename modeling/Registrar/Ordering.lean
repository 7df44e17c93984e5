import Registrar.Diagnostic.Basic
import Registrar.Ordering.Cycle
import Registrar.Ordering.Topological

/-!
# The order of registrations

Transient and scoped registrations only say how to build; a singleton is built on the spot, and
what it is built from has to be registered by then. The order puts it there, and otherwise keeps
to the order of the list. Singletons that need each other cannot be put in order: a diagnostic
shows each such cycle, and they follow after everything else, together with the singletons that
wait for them.
-/

namespace Registrar

/-- How registrations are ordered. -/
inductive OrderingPolicy where
  /-- Whatever a singleton is built from comes before it. -/
  | dependencyOrder
  /-- As they were first seen. -/
  | firstSeen
deriving DecidableEq, Repr, Inhabited

namespace Ordering

variable {n : Nat}

/-- Descriptors in their order, and the diagnostics for those that have none. -/
structure Result where
  descriptors : List Descriptor
  diagnostics : List Diagnostic
deriving DecidableEq, Repr

/-- A list as a vector, so that its positions are numbers that it has. -/
def toVector (descriptors : List Descriptor) : Vector Descriptor descriptors.length :=
  ⟨descriptors.toArray, rfl⟩

/-- The diagnostic for a cycle, at the place of its first class. -/
def reportCycle (descriptors : Vector Descriptor n) (locate : TypeName → Option Location)
    (chain : List (Fin n)) : Diagnostic :=
  let names := chain.map fun i => (descriptors.get i).implementation
  (Diagnostic.Finding.cyclicSingletonDependency names).report (names.head?.bind locate)

def byDependency (descriptors : Vector Descriptor n) (locate : TypeName → Option Location) :
    Result :=
  let g := Graph.ofDescriptors descriptors
  let finish := (Constraints.ofGraph g).finish
  { descriptors := (finish.emitted ++ finish.blocked).map descriptors.get
    diagnostics := (g.cycles [] finish.blocked).map (reportCycle descriptors locate) }

end Ordering

/-- Put descriptors in the order of their registrations; `locate` tells where a class stands. -/
def order (descriptors : List Descriptor) (policy : OrderingPolicy)
    (locate : TypeName → Option Location) : Ordering.Result :=
  match policy with
  | .firstSeen => ⟨descriptors, []⟩
  | .dependencyOrder => Ordering.byDependency (Ordering.toVector descriptors) locate

end Registrar
