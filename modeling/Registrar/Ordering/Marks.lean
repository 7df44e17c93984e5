/-!
# Marks

A set of positions below `n`, as one mark for each. A search marks the positions it meets; as it
never meets one twice, the number of positions that are still free bounds what it has left to do.

* `mem_add_iff`, `mem_addAll_iff` : what a mark changes.
* `free_add_lt`, `free_addAll_lt` : a new mark leaves fewer positions free.
-/

namespace Registrar.Ordering

variable {n : Nat}

/-- A position below the length of a vector may be used for its number. -/
theorem get_eq_getElem {α : Type} (xs : Vector α n) (i : Fin n) :
    xs.get i = getElem xs i.val i.isLt := rfl

/-- A set of positions below `n`. -/
structure Marks (n : Nat) where
  bits : Vector Bool n
deriving DecidableEq, Repr

namespace Marks

/-- No position is marked. -/
def none : Marks n := ⟨Vector.replicate n false⟩

instance : Membership (Fin n) (Marks n) := ⟨fun marks i => marks.bits.get i = true⟩

instance (i : Fin n) (marks : Marks n) : Decidable (i ∈ marks) :=
  inferInstanceAs (Decidable (marks.bits.get i = true))

theorem mem_def {i : Fin n} {marks : Marks n} : i ∈ marks ↔ marks.bits.get i = true := Iff.rfl

/-- Mark one position. -/
def add (marks : Marks n) (i : Fin n) : Marks n := ⟨marks.bits.set i.val true i.isLt⟩

def addAll (marks : Marks n) (positions : List (Fin n)) : Marks n := positions.foldl add marks

/-- The marked positions, rising. -/
def toList (marks : Marks n) : List (Fin n) := (List.finRange n).filter (· ∈ marks)

/-- How many positions are marked. -/
def size (marks : Marks n) : Nat := marks.toList.length

/-- How many positions are not marked. -/
def free (marks : Marks n) : Nat := marks.bits.toList.count false

@[simp] theorem not_mem_none {i : Fin n} : i ∉ (none : Marks n) := by simp [mem_def, none, get_eq_getElem]

@[simp] theorem mem_add_iff {i j : Fin n} {marks : Marks n} :
    i ∈ marks.add j ↔ i = j ∨ i ∈ marks := by
  by_cases h : i = j
  · simp [mem_def, add, h, get_eq_getElem]
  · have : (j : Nat) ≠ i := fun e => h (Fin.ext e.symm)
    simp [mem_def, add, h, this, get_eq_getElem]

@[simp] theorem mem_addAll_iff {i : Fin n} {marks : Marks n} {positions : List (Fin n)} :
    i ∈ marks.addAll positions ↔ i ∈ positions ∨ i ∈ marks := by
  induction positions generalizing marks with
  | nil => simp [addAll]
  | cons j positions ih =>
    have : marks.addAll (j :: positions) = (marks.add j).addAll positions := rfl
    rw [this, ih, mem_add_iff, List.mem_cons]
    grind

@[simp] theorem mem_toList {i : Fin n} {marks : Marks n} : i ∈ marks.toList ↔ i ∈ marks := by
  simp [toList]

/-- A new mark leaves fewer positions free. -/
theorem free_add_lt {marks : Marks n} {i : Fin n} (h : i ∉ marks) :
    (marks.add i).free < marks.free := by
  have hbit : marks.bits.get i = false := by simpa [mem_def] using h
  have hlen : (i : Nat) < marks.bits.toList.length := by simp
  have hget : marks.bits.toList[(i : Nat)] = false := by simpa [get_eq_getElem] using hbit
  have hpos : 0 < marks.bits.toList.count false := by
    rw [List.count_pos_iff, ← hget]
    exact List.getElem_mem hlen
  have hset : (marks.add i).bits.toList = marks.bits.toList.set i true := by
    simp [add, Vector.toList, Vector.toArray_set]
  rw [free, free, hset, List.count_set hlen, hget]
  change marks.bits.toList.count false - 1 + 0 < marks.bits.toList.count false
  omega

theorem free_addAll_le (marks : Marks n) (positions : List (Fin n)) :
    (marks.addAll positions).free ≤ marks.free := by
  induction positions generalizing marks with
  | nil => exact Nat.le_refl _
  | cons j positions ih =>
    refine Nat.le_trans (ih (marks.add j)) ?_
    by_cases h : j ∈ marks
    · have : marks.add j = marks := by
        cases marks with
        | mk bits =>
          simp only [mem_def] at h
          simp only [add, mk.injEq]
          ext k hk
          by_cases hkj : (j : Nat) = k
          · subst hkj; simpa [get_eq_getElem] using h
          · simp [hkj]
      exact Nat.le_of_eq (congrArg free this)
    · exact Nat.le_of_lt (free_add_lt h)

/-- New marks leave fewer positions free, if there are any. -/
theorem free_addAll_lt {marks : Marks n} {positions : List (Fin n)} (hne : positions ≠ [])
    (h : ∀ i ∈ positions, i ∉ marks) : (marks.addAll positions).free < marks.free := by
  cases positions with
  | nil => exact absurd rfl hne
  | cons j positions =>
    exact Nat.lt_of_le_of_lt (free_addAll_le (marks.add j) positions) (free_add_lt (h j (by simp)))

end Marks

end Registrar.Ordering
