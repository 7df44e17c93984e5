import Registrar.Ordering.Graph

/-!
# Cycles

A cycle is shown as a chain of registrations, each of which needs the next one, and of which the
last one is the first one again. Among the cycles through a registration a shortest one is shown.
It is found by a search that goes on from the registrations in the order in which they were
discovered, and keeps a log of who was discovered from whom.
-/

namespace Registrar.Ordering

variable {n : Nat}

/-- Who was discovered, and from whom; the last discovery comes first. -/
abbrev DiscoveryLog (n : Nat) := List (Fin n × Fin n)

/-- The way from `start` to `cursor` that a log shows, put in front of `chain`. Whoever `cursor`
was discovered from was itself discovered earlier. -/
def DiscoveryLog.trace (start : Fin n) :
    DiscoveryLog n → (cursor : Fin n) → (chain : List (Fin n)) → Option (List (Fin n))
  | [], cursor, chain => if cursor = start then some (cursor :: chain) else none
  | (found, source) :: earlier, cursor, chain =>
    if cursor = start then some (cursor :: chain)
    else if found = cursor then DiscoveryLog.trace start earlier source (cursor :: chain)
    else DiscoveryLog.trace start earlier cursor chain

namespace Graph

def newNeeds (g : Graph n) (seen : Marks n) (i : Fin n) : List (Fin n) :=
  (g.needs.get i).filter (· ∉ seen)

/-- Go on from the queue until someone in it needs `start`. -/
def search (g : Graph n) (start : Fin n) (seen : Marks n) (log : DiscoveryLog n) :
    (queue : List (Fin n)) → Option (List (Fin n))
  | [] => none
  | current :: queue =>
    if start ∈ g.needs.get current then log.trace start current [start]
    else
      g.search start (seen.addAll (g.newNeeds seen current))
        ((g.newNeeds seen current).reverse.map (·, current) ++ log)
        (queue ++ g.newNeeds seen current)
termination_by queue => (seen.free, queue.length)
decreasing_by
  by_cases h : g.newNeeds seen current = []
  · rw [h]
    exact Prod.Lex.right _ (by simp)
  · exact Prod.Lex.left _ _ (Marks.free_addAll_lt h (by simp [newNeeds]))

def shortestCycle (g : Graph n) (start : Fin n) : Option (List (Fin n)) :=
  g.search start .none [] [start]

/-- A chain for each of the given singletons that is on a cycle, unless a chain before shows it;
`shown` holds the registrations on chains so far. -/
def cycles (g : Graph n) (shown : List (Fin n)) : List (Fin n) → List (List (Fin n))
  | [] => []
  | start :: rest =>
    if start ∈ shown ∨ ¬ g.eager.get start then g.cycles shown rest
    else
      match g.shortestCycle start with
      | some chain => chain :: g.cycles (shown ++ chain) rest
      | none => g.cycles shown rest

end Graph

end Registrar.Ordering
