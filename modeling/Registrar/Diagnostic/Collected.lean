import Registrar.Diagnostic.Basic

/-!
# Collected diagnostics

The diagnostics of a whole pass, in the order in which they were reported, together with running
counts of the errors and the warnings among them. Nothing is ever taken out or moved.

* `toList_push`, `toList_extend` : what is reported comes after what was reported before.
* `Counted.extend` : the counts stay those of the list.
-/

namespace Registrar

/-- The diagnostics of a pass. -/
structure Diagnostics where
  items : Array Diagnostic := #[]
  errorCount : Nat := 0
  warningCount : Nat := 0
deriving DecidableEq, Repr

namespace Diagnostics

/-- Nothing reported yet. -/
def empty : Diagnostics := {}

/-- The diagnostics, the first one reported first. -/
def toList (ds : Diagnostics) : List Diagnostic := ds.items.toList

def size (ds : Diagnostics) : Nat := ds.items.size

def isEmpty (ds : Diagnostics) : Bool := ds.items.isEmpty

def hasErrors (ds : Diagnostics) : Bool := 0 < ds.errorCount

/-- Report one more. -/
def push (ds : Diagnostics) (d : Diagnostic) : Diagnostics :=
  { items := ds.items.push d
    errorCount := if d.isError then ds.errorCount + 1 else ds.errorCount
    warningCount := if d.isWarning then ds.warningCount + 1 else ds.warningCount }

/-- Report all of a list, in its order. -/
def extend (ds : Diagnostics) (more : List Diagnostic) : Diagnostics := more.foldl push ds

def ofList (list : List Diagnostic) : Diagnostics := empty.extend list

/-- The counts are those of the list. -/
structure Counted (ds : Diagnostics) : Prop where
  errorCount : ds.errorCount = ds.toList.countP (·.isError)
  warningCount : ds.warningCount = ds.toList.countP (·.isWarning)

@[simp] theorem toList_empty : empty.toList = [] := rfl

@[simp] theorem toList_push (ds : Diagnostics) (d : Diagnostic) :
    (ds.push d).toList = ds.toList ++ [d] := by
  simp [push, toList]

@[simp] theorem toList_extend (ds : Diagnostics) (more : List Diagnostic) :
    (ds.extend more).toList = ds.toList ++ more := by
  induction more generalizing ds with
  | nil => simp [extend]
  | cons d more ih => simpa [extend] using ih (ds.push d)

theorem Counted.empty : Counted Diagnostics.empty := ⟨rfl, rfl⟩

/-- Adding a diagnostic keeps the counts right. -/
theorem Counted.push {ds : Diagnostics} (h : Counted ds) (d : Diagnostic) : Counted (ds.push d) := by
  refine ⟨?_, ?_⟩
  · rw [toList_push, List.countP_append, ← h.errorCount]
    by_cases hd : d.isError <;> simp [Diagnostics.push, hd]
  · rw [toList_push, List.countP_append, ← h.warningCount]
    by_cases hd : d.isWarning <;> simp [Diagnostics.push, hd]

/-- Adding any number of diagnostics keeps the counts right. -/
theorem Counted.extend {ds : Diagnostics} (h : Counted ds) (more : List Diagnostic) :
    Counted (ds.extend more) := by
  induction more generalizing ds with
  | nil => exact h
  | cons d more ih => exact ih (h.push d)

end Diagnostics

end Registrar
