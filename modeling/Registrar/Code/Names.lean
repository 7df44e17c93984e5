/-!
# Local names

Within one generated file no name is given to two things. A name that is asked for again gets the
first number from 2 on that makes it new. The numbers are counted in 32 bits, and what happens after
the last of them depends on whether the counter is checked.
-/

namespace Registrar.Code

/-- What becomes of a counter at its greatest value. -/
inductive Counting where
  /-- It overflows, and the program stops. -/
  | checked
  /-- It goes on at its least value. -/
  | wrapping
deriving DecidableEq, Repr

/-- How many steps the counter of the numbers makes until it overflows, or comes back to where it
started. It starts from 1, which stands for no number. -/
def Counting.limit : Counting → Nat
  | .checked => 2147483646
  | .wrapping => 4294967296

/-- The names that are taken, the last one first. -/
structure Names where
  taken : List String := []
deriving DecidableEq, Repr, Inhabited

namespace Names

/-- A name with a number. -/
def numbered (base : String) (n : Int) : String := base ++ "_" ++ toString n

/-- The counter of the numbers after so many steps. -/
def counter (steps : Nat) : Int32 := Int32.ofNat (steps + 1)

/-- The names that are tried for `base`: `base` itself, and then `base` with one number after the
other. -/
def candidate (base : String) : (steps : Nat) → String
  | 0 => base
  | steps + 1 => numbered base (counter (steps + 1)).toInt

/-- The first of these names that is not taken. There is none if the counter overflows before, or if
all numbers are taken and the search goes round and round. As the names are different, no more of
them are taken than there are taken names. -/
def fresh? (names : Names) (counting : Counting) (base : String) : Option String :=
  ((List.range (min names.taken.length counting.limit + 1)).find? fun steps =>
    candidate base steps ∉ names.taken).map (candidate base)

/-- The name that is given for `base` by a counter that is not checked. `base` stands in for the name
that a search without end does not come to. -/
def fresh (names : Names) (base : String) : String := (names.fresh? .wrapping base).getD base

def take (names : Names) (name : String) : Names := ⟨name :: names.taken⟩

end Names

end Registrar.Code
