import Mathlib.Data.Fintype.EquivFin
import Mathlib.Logic.Relation
import Mathlib.Order.WellFounded
import Registrar.Proofs.Lists

/-!
# Coming after

Lists of positions in which everything comes after what it is related to, and what such a list has
to do with cycles of the relation: none of its members is on one. The other way round, among
finitely many positions whoever finds no end leads to a cycle.

* `ComesAfter.snoc` : how such a list grows.
* `ComesAfter.not_transGen_self` : its members are on no cycle.
* `exists_cycle_of_forall_exists` : a way without an end leads to a cycle.
-/

namespace Registrar.Ordering

open Relation

variable {n : Nat}

/-- Whatever a member of the list is related to stands before it. -/
def ComesAfter (r : Fin n → Fin n → Prop) (order : List (Fin n)) : Prop :=
  ∀ earlier i later, order = earlier ++ i :: later → ∀ j, r i j → j ∈ earlier

namespace ComesAfter

variable {r : Fin n → Fin n → Prop} {order : List (Fin n)}

/-- The empty list has nothing in the wrong place. -/
theorem nil : ComesAfter r [] := by
  intro earlier i later h
  simp at h

/-- Such a list can be made longer at its end by whatever is related only to members. -/
theorem snoc {i : Fin n} (h : ComesAfter r order) (hi : ∀ j, r i j → j ∈ order) :
    ComesAfter r (order ++ [i]) := by
  intro earlier k later hsplit j hkj
  rcases eq_of_append_singleton_eq hsplit with ⟨-, rfl, rfl⟩ | ⟨between, -, horder⟩
  · exact hi j hkj
  · exact h earlier k between horder j hkj

theorem mem_of_mem {i j : Fin n} (h : ComesAfter r order) (hi : i ∈ order) (hij : r i j) :
    j ∈ order := by
  obtain ⟨earlier, later, horder⟩ := List.append_of_mem hi
  rw [horder]
  exact List.mem_append_left _ (h earlier i later horder j hij)

/-- What a member leads to stands before it. Induction on the way there: each step goes further
to the front. -/
theorem transGen {i j : Fin n} (h : ComesAfter r order) (hij : TransGen r i j)
    (earlier later : List (Fin n)) (horder : order = earlier ++ i :: later) : j ∈ earlier := by
  induction hij with
  | single hij => exact h earlier i later horder _ hij
  | @tail a b _ hab ih =>
    obtain ⟨front, rest, hfront⟩ := List.append_of_mem ih
    have hb : b ∈ front := h front a (rest ++ i :: later) (by simp [horder, hfront]) b hab
    rw [hfront]
    exact List.mem_append_left _ hb

/-- No member of such a list, if it has no repetitions, is on a cycle. -/
theorem not_transGen_self {i : Fin n} (h : ComesAfter r order) (hnodup : order.Nodup)
    (hi : i ∈ order) : ¬ TransGen r i i := by
  intro hcycle
  obtain ⟨earlier, later, horder⟩ := List.append_of_mem hi
  have hmem : i ∈ earlier := h.transGen hcycle earlier later horder
  rw [horder, List.nodup_append] at hnodup
  exact hnodup.2.2 i hmem i List.mem_cons_self rfl

end ComesAfter

/-! ### Ways without an end -/

/-- Among finitely many things, if whatever has a property is related to something that has it,
then each such thing leads to a cycle. -/
theorem exists_cycle_of_forall_exists {α : Type} [Finite α] {r : α → α → Prop} {p : α → Prop}
    (h : ∀ a, p a → ∃ b, r a b ∧ p b) {a : α} (ha : p a) :
    ∃ k, ReflTransGen r a k ∧ TransGen r k k := by
  by_contra hnone
  have hacyclic : ∀ k, ReflTransGen r a k → ¬ TransGen r k k := fun k hak hkk =>
    hnone ⟨k, hak, hkk⟩
  -- without a cycle, the things that `a` leads to are well founded, and one of them is last
  let Led := { k : α // ReflTransGen r a k }
  have : IsTrans Led (fun x y => TransGen r y.val x.val) := ⟨fun _ _ _ hxy hyz => hyz.trans hxy⟩
  have : Std.Irrefl (fun x y : Led => TransGen r y.val x.val) :=
    ⟨fun x => hacyclic x.val x.property⟩
  have hwf : WellFounded (fun x y : Led => TransGen r y.val x.val) :=
    Finite.wellFounded_of_trans_of_irrefl _
  obtain ⟨last, hlast, hmin⟩ :=
    hwf.has_min { x : Led | p x.val } ⟨⟨a, .refl⟩, ha⟩
  obtain ⟨b, hab, hb⟩ := h last.val hlast
  -- the last one is related to another of them, which cannot be
  exact hmin ⟨b, last.property.tail hab⟩ hb (.single hab)

end Registrar.Ordering
