import Registrar.Code.Attributes
import Registrar.Code.ScopeLifecycle
import Registrar.Proofs.Code.LocalNames

/-!
# Scripts return

No script of a generated file goes back further than it went in, and at its end everything is
closed. What counts is how deep the writer is and whether the namespace of the container is open. A
part of a script that brings both back can be left out of it. So the parts that are written for each
descriptor or scope root, of which there may be any number, are taken care of by themselves, and
what is left of a script is a fixed list of steps.

* `Writer.Returns` : nothing is closed that was not opened, and in the end all that was opened is.
* `Writer.SamePlace.run` : the local names that are taken have no part in it.
* `Writer.Returns.insert` : a part that returns can be put anywhere.
* `returns_registrationsScript`, `returns_scopeLifecycleScript`, `returns_attributesScript` : the
  files.
-/

namespace Registrar.Code

/-! ## §1 — going in and coming back -/

namespace Writer

/-- How many levels a step goes back. -/
def dedents (w : Writer) : Step → Nat
  | .dedent | .closeBlock => 1
  | .closeContainer => if w.inNamespace then 2 else 1
  | _ => 0

/-- No step of a script goes back further than the writer is in by then. -/
def StaysInside (w : Writer) : List Step → Prop
  | [] => True
  | s :: script => w.dedents s ≤ w.depth ∧ (w.step s).1.StaysInside script

/-- The next line is written in the same place. -/
structure SamePlace (w w' : Writer) : Prop where
  depth : w.depth = w'.depth
  inNamespace : w.inNamespace = w'.inNamespace

/-- A script stays inside and ends where it began. -/
structure Returns (w : Writer) (script : List Step) : Prop where
  inside : w.StaysInside script
  samePlace : (w.run script).1.SamePlace w

variable {w w' : Writer} {a b : List Step} {s : Step}

/-- A script that is continued stays inside if both parts do, the second one from where the first
one ends. -/
theorem staysInside_append :
    w.StaysInside (a ++ b) ↔ w.StaysInside a ∧ (w.run a).1.StaysInside b := by
  induction a generalizing w with
  | nil => exact (iff_of_eq (true_and _)).symm
  | cons s a ih =>
    show _ ∧ (w.step s).1.StaysInside (a ++ b) ↔
      (_ ∧ (w.step s).1.StaysInside a) ∧ ((w.step s).1.run a).1.StaysInside b
    rw [ih, and_assoc]

theorem SamePlace.trans {w'' : Writer} (h : w.SamePlace w') (h' : w'.SamePlace w'') :
    w.SamePlace w'' :=
  ⟨h.depth.trans h'.depth, h.inNamespace.trans h'.inNamespace⟩

theorem SamePlace.dedents (h : w.SamePlace w') (s : Step) : w.dedents s = w'.dedents s := by
  cases s <;> simp only [Writer.dedents, h.inNamespace]

/-- **A step leads from the same place to the same place**, whichever names are taken. One case for
each kind of step. -/
theorem SamePlace.step (h : w.SamePlace w') (s : Step) : (w.step s).1.SamePlace (w'.step s).1 := by
  obtain ⟨depth, inNamespace, names⟩ := w
  obtain ⟨depth', inNamespace', names'⟩ := w'
  obtain ⟨rfl, rfl⟩ : depth = depth' ∧ inNamespace = inNamespace' := ⟨h.depth, h.inNamespace⟩
  -- only the container looks at the namespace, and it is open for both or for none
  cases s with
  | openContainer options =>
    simp only [Writer.step]
    split <;> exact ⟨rfl, rfl⟩
  | closeContainer => cases inNamespace <;> exact ⟨rfl, rfl⟩
  | _ => exact ⟨rfl, rfl⟩

/-- Taken names change nothing about where lines go. Induction on the script. -/
theorem SamePlace.run (h : w.SamePlace w') (script : List Step) :
    (w.StaysInside script ↔ w'.StaysInside script) ∧
      (w.run script).1.SamePlace (w'.run script).1 := by
  induction script generalizing w w' with
  | nil => exact ⟨Iff.rfl, h⟩
  | cons s script ih =>
    obtain ⟨hinside, hplace⟩ := ih (h.step s)
    refine ⟨?_, hplace⟩
    show _ ∧ _ ↔ _ ∧ _
    rw [h.dedents, h.depth, hinside]

/-- Two parts that return are one that does. -/
theorem Returns.append (ha : w.Returns a) (hb : w.Returns b) : w.Returns (a ++ b) := by
  -- the second part begins in the same place, though perhaps not with the same names
  obtain ⟨hinside, hplace⟩ := ha.samePlace.run b
  refine ⟨staysInside_append.mpr ⟨ha.inside, hinside.mpr hb.inside⟩, ?_⟩
  rw [run_append]
  exact hplace.trans hb.samePlace

/-- **A part that returns can be put anywhere** into a script. -/
theorem Returns.insert {body : List Step} (hbody : ∀ w : Writer, w.Returns body)
    (h : w.Returns (a ++ b)) : w.Returns (a ++ body ++ b) := by
  obtain ⟨ha, hb⟩ := staysInside_append.mp h.inside
  have hplace := h.samePlace
  rw [run_append] at hplace
  -- after the part, the rest of the script is where it would be without
  have hrest := (hbody (w.run a).1).samePlace.run b
  rw [List.append_assoc]
  refine ⟨staysInside_append.mpr ⟨ha, staysInside_append.mpr ⟨(hbody _).inside, ?_⟩⟩, ?_⟩
  · exact hrest.1.mpr hb
  · rw [run_append, run_append]
    exact hrest.2.trans hplace

theorem returns_nil (w : Writer) : w.Returns [] := ⟨trivial, rfl, rfl⟩

/-- Any number of parts that return, one after the other, return. Induction on the list. -/
theorem returns_flatMap {α : Type} {f : α → List Step} (h : ∀ (x : α) (w : Writer), w.Returns (f x))
    (xs : List α) (w : Writer) : w.Returns (xs.flatMap f) := by
  induction xs with
  | nil => exact returns_nil w
  | cons x xs ih => exact (h x w).append ih

end Writer

/-! ## §2 — the three scripts -/

/-- The statements of a service stay as deep as they begin. -/
theorem returns_registration (d : Descriptor) (w : Writer) : w.Returns [registration d] := by
  have hdedents : w.dedents (registration d) = 0 := by
    unfold registration
    split <;> rfl
  refine ⟨⟨hdedents ▸ Nat.zero_le _, trivial⟩, ?_⟩
  show (w.step (registration d)).1.SamePlace w
  rw [step_registration]
  exact ⟨rfl, rfl⟩

/-- A branch closes the block that it opens. -/
theorem returns_rootBranch (keyword : String) (root : TypeName) (w : Writer) :
    w.Returns (rootBranch keyword root) :=
  ⟨by simp [rootBranch, Writer.StaysInside, Writer.dedents, Writer.step], rfl, rfl⟩

/-- So all branches do, the first one and those that follow it. -/
theorem returns_rootBranches (roots : List TypeName) (w : Writer) :
    w.Returns (rootBranches roots) := by
  cases roots with
  | nil => exact Writer.returns_nil w
  | cons first rest =>
    exact (returns_rootBranch _ _ w).append (Writer.returns_flatMap (returns_rootBranch _) rest w)

/-- **The script of the registration routine returns**, with a namespace and without. -/
theorem returns_registrationsScript (ds : List Descriptor) (options : Options) :
    Writer.Returns {} (registrationsScript ds options) := by
  refine Writer.Returns.insert (fun w => ?_) ?_
  -- the statements, of any number of descriptors
  · rw [List.map_eq_flatMap]
    exact Writer.returns_flatMap returns_registration _ w
  -- the steps around them, of which there are as many for all descriptors
  · cases hopen : options.openNamespace? <;>
      exact ⟨by simp [Writer.StaysInside, Writer.dedents, Writer.step, hopen],
        by simp [Writer.run, Writer.step, hopen], by simp [Writer.run, Writer.step, hopen]⟩

/-- **So does that of the lifecycle routine.** -/
theorem returns_scopeLifecycleScript (roots : List TypeName) (options : Options) :
    Writer.Returns {} (scopeLifecycleScript roots options) := by
  refine Writer.Returns.insert (returns_rootBranches roots) ?_
  -- the steps around the branches
  cases hopen : options.openNamespace? <;>
    exact ⟨by simp [Writer.StaysInside, Writer.dedents, Writer.step, hopen],
      by simp [Writer.run, Writer.step, hopen], by simp [Writer.run, Writer.step, hopen]⟩

/-- **And that of the attributes**, which is one list of steps. -/
theorem returns_attributesScript (options : Options) :
    Writer.Returns {} (attributesScript options) :=
  ⟨by simp [attributesScript, Lifetime.all, lifetimeAttribute, plainAttribute, Writer.StaysInside,
    Writer.dedents, Writer.step], rfl, rfl⟩

end Registrar.Code
