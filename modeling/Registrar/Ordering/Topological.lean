import Registrar.Ordering.Graph

/-!
# A stable order

Every position waits for those that have to come before it. In each round the first position that
waits for nothing more is emitted, and those that waited for it wait for one less. So a list that
is in order already keeps its order. Positions that still wait in the end are blocked: they wait
for each other, or for positions that do.
-/

namespace Registrar.Ordering

variable {n : Nat}

/-- Put a position into a rising list. -/
def insertRising (i : Fin n) : List (Fin n) → List (Fin n)
  | [] => [i]
  | j :: rest => if i ≤ j then i :: j :: rest else j :: insertRising i rest

/-- How far the emission has come. -/
structure Progress (n : Nat) where
  /-- How many positions each one still waits for. -/
  waiting : Vector Nat n
  /-- The positions that wait for nothing and are not emitted, rising. -/
  ready : List (Fin n)
  /-- The emitted positions, in order. -/
  emitted : List (Fin n)
deriving Repr

/-- For every position, what it has to wait for, and who waits for it. -/
structure Constraints (n : Nat) where
  before : Vector (Marks n) n
  /-- The positions that wait for this one, rising. -/
  after : Vector (List (Fin n)) n

namespace Constraints

/-- The constraints that say what comes before each position. -/
def ofBefore (before : Vector (Marks n) n) : Constraints n :=
  { before, after := Vector.ofFn fun i => (List.finRange n).filter fun j => i ∈ before.get j }

def ofGraph (g : Graph n) : Constraints n := ofBefore (Vector.ofFn g.before)

/-- Nothing is emitted yet. -/
def start (c : Constraints n) : Progress n :=
  let waiting := c.before.map (·.size)
  { waiting, ready := (List.finRange n).filter (waiting.get · = 0), emitted := [] }

end Constraints

namespace Progress

/-- A position that `i` waited for was emitted. -/
def release (p : Progress n) (i : Fin n) : Progress n :=
  let left := p.waiting.get i - 1
  { p with
    waiting := p.waiting.set i.val left i.isLt
    ready := if left = 0 then insertRising i p.ready else p.ready }

/-- Emit the first position that is ready, if there is one. -/
def step (c : Constraints n) (p : Progress n) : Progress n :=
  match p.ready with
  | [] => p
  | i :: ready => (c.after.get i).foldl release { p with ready, emitted := p.emitted ++ [i] }

/-- The positions that wait. -/
def blocked (p : Progress n) : List (Fin n) := (List.finRange n).filter (0 < p.waiting.get ·)

end Progress

/-- The state after a number of rounds. -/
def Constraints.rounds (c : Constraints n) (count : Nat) : Progress n :=
  Nat.repeat (Progress.step c) count c.start

/-- The state in which nothing is ready: each round that does something emits a position, so there
are at most `n` of them. -/
def Constraints.finish (c : Constraints n) : Progress n := c.rounds n

end Registrar.Ordering
