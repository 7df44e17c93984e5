import Mathlib.Logic.Relation
import Registrar.Ordering

/-!
# What building a singleton requires

The relations that the theorems on the order of registrations speak about, in terms of descriptors
alone, and what the graph of a list of descriptors has to do with them.

* `Asks` : one registration asks for the interface of another.
* `Requires` : a singleton, while it is built, comes to another registration.
* `needs_ofDescriptors_iff`, `mem_before_ofDescriptors_iff` : the graph computes exactly these two.
* `Requires.transGen_of_asks` : a way of asking between singletons is a way of requiring. So a
  singleton that comes back to itself by asking lies on a cycle of requirements.
-/

namespace Registrar.Ordering

open Relation

variable {n : Nat}

/-! ## §1 — the relations on descriptors -/

/-- `i` asks for the interface of `j`. -/
def Asks (descriptors : List Descriptor) (i j : Fin descriptors.length) : Prop :=
  (descriptors.get j).interface ∈ (descriptors.get i).parameters

/-- `i` is built when it is registered. -/
def IsSingleton (descriptors : List Descriptor) (i : Fin descriptors.length) : Prop :=
  (descriptors.get i).lifetime = .singleton

/-- What the singleton `i` comes to while it is built: the registrations that it asks for, and
what those ask for in turn. A singleton on the way is built already and is not gone into. -/
inductive Requires (descriptors : List Descriptor) (i : Fin descriptors.length) :
    Fin descriptors.length → Prop where
  | asked {j : Fin descriptors.length} (singleton : IsSingleton descriptors i)
      (asks : Asks descriptors i j) : Requires descriptors i j
  | through {k j : Fin descriptors.length} (requires : Requires descriptors i k)
      (lazy : ¬ IsSingleton descriptors k) (asks : Asks descriptors k j) :
      Requires descriptors i j

variable {descriptors : List Descriptor} {i j k : Fin descriptors.length}

theorem Requires.isSingleton (h : Requires descriptors i j) : IsSingleton descriptors i := by
  induction h with
  | asked singleton _ => exact singleton
  | through _ _ _ ih => exact ih

theorem Requires.transGen_asks (h : Requires descriptors i j) :
    TransGen (Asks descriptors) i j := by
  induction h with
  | asked _ asks => exact .single asks
  | through _ _ asks ih => exact ih.tail asks

/-- The last singleton on a way of asking: it is come to by requirements, and what the way leads
to is required by it. Induction on the way; a singleton that it leads to takes over. -/
theorem Requires.exists_last (hi : IsSingleton descriptors i)
    (h : TransGen (Asks descriptors) i j) :
    ∃ k, ReflTransGen (Requires descriptors) i k ∧ Requires descriptors k j := by
  induction h with
  | single asks => exact ⟨i, .refl, .asked hi asks⟩
  | @tail a b _ asks ih =>
    obtain ⟨k, hik, hka⟩ := ih
    -- a singleton starts a requirement of its own; anything else is gone through
    by_cases ha : IsSingleton descriptors a
    · exact ⟨a, hik.tail hka, .asked ha asks⟩
    · exact ⟨k, hik, hka.through ha asks⟩

/-- **A way of asking that starts at a singleton is a way of requirements.** -/
theorem Requires.transGen_of_asks (hi : IsSingleton descriptors i)
    (h : TransGen (Asks descriptors) i j) : TransGen (Requires descriptors) i j := by
  obtain ⟨k, hik, hkj⟩ := Requires.exists_last hi h
  exact TransGen.tail' hik hkj

/-- A singleton is on a cycle of requirements if and only if it can be come back to by asking. -/
theorem Requires.transGen_self_iff :
    TransGen (Requires descriptors) i i ↔
      IsSingleton descriptors i ∧ TransGen (Asks descriptors) i i := by
  refine ⟨?_, ?_⟩
  · intro h
    obtain ⟨k, hik, -⟩ := TransGen.head'_iff.mp h
    refine ⟨hik.isSingleton, ?_⟩
    exact TransGen.closed (fun _ _ => Requires.transGen_asks) _ _ h
  · rintro ⟨hi, h⟩
    exact Requires.transGen_of_asks hi h

/-! ## §2 — the sweep of a graph

The sweep marks what is pending, and goes on from what it marks unless that is a singleton. So it
marks nothing that it does not come to (`sweep_sound`), it keeps its marks and marks all that is
pending (`mem_sweep_of_mem`), and its marks are closed in the end (`sweep_closed`). -/

namespace Graph

/-- `i` needs `j` in the graph. -/
def Needs (g : Graph n) (i j : Fin n) : Prop := j ∈ g.needs.get i

/-- `i` is not a singleton and needs `j`. -/
def LazilyNeeds (g : Graph n) (i j : Fin n) : Prop := g.eager.get i = false ∧ g.Needs i j

/-- The sweep marks nothing that it does not come to. -/
theorem sweep_sound (g : Graph n) (seen : Marks n) (pending : List (Fin n)) {j : Fin n}
    (h : j ∈ g.sweep seen pending) :
    j ∈ seen ∨ ∃ p ∈ pending, ReflTransGen g.LazilyNeeds p j := by
  fun_induction sweep g seen pending with
  | case1 seen => exact Or.inl h
  | case2 seen i pending hi ih =>
    rcases ih h with hj | ⟨p, hp, hpj⟩
    · exact Or.inl hj
    · exact Or.inr ⟨p, List.mem_cons_of_mem _ hp, hpj⟩
  | case3 seen i pending hi ih =>
    rcases ih h with hj | ⟨p, hp, hpj⟩
    · -- marked already, or the position that is marked now
      rcases Marks.mem_add_iff.mp hj with rfl | hj
      · exact Or.inr ⟨j, List.mem_cons_self, .refl⟩
      · exact Or.inl hj
    · by_cases he : g.eager.get i = true
      · rw [dif_pos he] at hp
        exact Or.inr ⟨p, List.mem_cons_of_mem _ hp, hpj⟩
      · rw [dif_neg he] at hp
        rcases List.mem_append.mp hp with hp | hp
        · -- `p` became pending because `i` needs it
          exact Or.inr ⟨i, List.mem_cons_self, .head ⟨by simpa using he, hp⟩ hpj⟩
        · exact Or.inr ⟨p, List.mem_cons_of_mem _ hp, hpj⟩

/-- The sweep keeps its marks and marks all that is pending. -/
theorem mem_sweep_of_mem (g : Graph n) (seen : Marks n) (pending : List (Fin n)) {j : Fin n}
    (h : j ∈ seen ∨ j ∈ pending) : j ∈ g.sweep seen pending := by
  fun_induction sweep g seen pending with
  | case1 seen => simpa using h
  | case2 seen i pending hi ih =>
    apply ih
    rcases h with hj | hj
    · exact Or.inl hj
    · rcases List.mem_cons.mp hj with rfl | hj
      · exact Or.inl hi
      · exact Or.inr hj
  | case3 seen i pending hi ih =>
    apply ih
    rcases h with hj | hj
    · exact Or.inl (Marks.mem_add_iff.mpr (Or.inr hj))
    · rcases List.mem_cons.mp hj with rfl | hj
      · exact Or.inl (Marks.mem_add_iff.mpr (Or.inl rfl))
      · refine Or.inr ?_
        split
        · exact hj
        · exact List.mem_append_right _ hj

/-- The marks are closed at the end if whatever they lacked was pending at the start. -/
theorem sweep_closed (g : Graph n) (seen : Marks n) (pending : List (Fin n))
    (hseen : ∀ a ∈ seen, ∀ b, g.LazilyNeeds a b → b ∈ seen ∨ b ∈ pending) {a b : Fin n}
    (ha : a ∈ g.sweep seen pending) (hab : g.LazilyNeeds a b) : b ∈ g.sweep seen pending := by
  fun_induction sweep g seen pending with
  | case1 seen => simpa using hseen a ha b hab
  | case2 seen i pending hi ih =>
    refine ih ?_ ha
    intro c hc d hcd
    -- what was marked before lacks nothing but what is pending
    rcases hseen c hc d hcd with hd | hd
    · exact Or.inl hd
    · rcases List.mem_cons.mp hd with rfl | hd
      · exact Or.inl hi
      · exact Or.inr hd
  | case3 seen i pending hi ih =>
    refine ih ?_ ha
    intro c hc d hcd
    rcases Marks.mem_add_iff.mp hc with rfl | hc
    · -- what the new mark lacks has become pending with it
      refine Or.inr ?_
      rw [dif_neg (by simp [hcd.1])]
      exact List.mem_append_left _ hcd.2
    · rcases hseen c hc d hcd with hd | hd
      · exact Or.inl (Marks.mem_add_iff.mpr (Or.inr hd))
      · rcases List.mem_cons.mp hd with rfl | hd
        · exact Or.inl (Marks.mem_add_iff.mpr (Or.inl rfl))
        · refine Or.inr ?_
          split
          · exact hd
          · exact List.mem_append_right _ hd

/-- What comes before a position: nothing unless it is a singleton, and then all that its needs
come to without going into singletons. -/
theorem mem_before_iff (g : Graph n) {i j : Fin n} :
    j ∈ g.before i ↔
      g.eager.get i = true ∧ ∃ p, g.Needs i p ∧ ReflTransGen g.LazilyNeeds p j := by
  unfold before
  by_cases he : g.eager.get i = true
  · rw [if_pos he]
    refine ⟨?_, ?_⟩
    · intro h
      rcases g.sweep_sound _ _ h with hj | ⟨p, hp, hpj⟩
      · exact absurd hj Marks.not_mem_none
      · exact ⟨he, p, hp, hpj⟩
    · rintro ⟨-, p, hp, hpj⟩
      -- the marks hold `p`, and are closed under what leads from it to `j`
      induction hpj with
      | refl => exact g.mem_sweep_of_mem _ _ (Or.inr hp)
      | tail _ hab ih =>
        exact g.sweep_closed _ _ (fun a ha => absurd ha Marks.not_mem_none) ih hab
  · rw [if_neg he]
    refine ⟨?_, ?_⟩
    · intro h
      exact absurd h Marks.not_mem_none
    · rintro ⟨h, -⟩
      exact absurd h he

end Graph

/-! ## §3 — the graph of a list of descriptors -/

theorem get_toVector (descriptors : List Descriptor) (i : Fin descriptors.length) :
    (toVector descriptors).get i = descriptors.get i := rfl

theorem eager_ofDescriptors_iff :
    (Graph.ofDescriptors (toVector descriptors)).eager.get i = true ↔ IsSingleton descriptors i := by
  rw [Graph.eager_ofDescriptors, get_toVector, IsSingleton]
  cases (descriptors.get i).lifetime <;> simp [Lifetime.isEager]

/-- The needs of the graph are what the descriptors ask for. -/
theorem needs_ofDescriptors_iff :
    (Graph.ofDescriptors (toVector descriptors)).Needs i j ↔ Asks descriptors i j := by
  rw [Graph.Needs, Graph.mem_needs_iff, get_toVector, get_toVector, Asks]

/-- The same as an equation between the two relations. -/
theorem needs_ofDescriptors (descriptors : List Descriptor) :
    (Graph.ofDescriptors (toVector descriptors)).Needs = Asks descriptors := by
  funext i j
  rw [eq_iff_iff, needs_ofDescriptors_iff]

/-- What the order puts before a registration is what it requires. -/
theorem mem_before_ofDescriptors_iff :
    j ∈ (Graph.ofDescriptors (toVector descriptors)).before i ↔ Requires descriptors i j := by
  rw [Graph.mem_before_iff, eager_ofDescriptors_iff]
  -- a way of lazy needs and a requirement are built up at the same end, step by step
  refine ⟨?_, ?_⟩
  · rintro ⟨hi, p, hp, hpj⟩
    induction hpj with
    | refl => exact .asked hi (needs_ofDescriptors_iff.mp hp)
    | tail _ hab ih =>
      refine ih.through ?_ (needs_ofDescriptors_iff.mp hab.2)
      rw [← eager_ofDescriptors_iff]
      simp [hab.1]
  · intro h
    refine ⟨h.isSingleton, ?_⟩
    induction h with
    | @asked j _ asks => exact ⟨j, needs_ofDescriptors_iff.mpr asks, .refl⟩
    | @through k j _ lazy asks ih =>
      obtain ⟨p, hp, hpk⟩ := ih
      refine ⟨p, hp, hpk.tail ⟨?_, needs_ofDescriptors_iff.mpr asks⟩⟩
      rw [← eager_ofDescriptors_iff] at lazy
      simpa using lazy

end Registrar.Ordering
