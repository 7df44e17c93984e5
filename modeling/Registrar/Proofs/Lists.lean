import Mathlib.Data.List.Basic
import Mathlib.Data.List.Forall2
import Mathlib.Data.List.Nodup

/-!
# Lists and results

* `eq_of_append_singleton_eq` : where a list with one more entry at its end can be split.
* `nodup_eraseDups`, `eraseDups_append_singleton` : what taking out repetitions leaves.
* `takeWhile_append_stop`, `dropWhile_append_stop` : a run ends where it cannot go on.
* `exists_split_of_not_nodup` : where a repetition is.
* `eq_of_append_cons_eq` : lists are cut at the first place of an entry in one way.
* `mem_intercalate` : lists with a separator between them hold nothing else.
* `map_eq_of_forall₂` : related lists have the same image if related entries have.
* `exists_cons_cons_of_two_le` : a list of several entries begins with two.
* `bind_eq_ok_iff`, `map_eq_ok_iff` : a computation that succeeds does so in all its parts.
-/

namespace Registrar

variable {α : Type}

/-- A list that ends in `last` is split either at this entry or before it. -/
theorem eq_of_append_singleton_eq {list earlier later : List α} {last entry : α}
    (h : list ++ [last] = earlier ++ entry :: later) :
    (later = [] ∧ list = earlier ∧ last = entry) ∨
      ∃ between, later = between ++ [last] ∧ list = earlier ++ entry :: between := by
  -- the last entry of both sides is the same: that of `later`, or the entry before it
  rcases List.eq_nil_or_concat later with rfl | ⟨between, final, rfl⟩
  · obtain ⟨hlist, hlast⟩ := List.append_inj' h rfl
    exact Or.inl ⟨rfl, hlist, List.head_eq_of_cons_eq hlast⟩
  · rw [List.concat_eq_append, ← List.cons_append, ← List.append_assoc] at h
    obtain ⟨hlist, hlast⟩ := List.append_inj' h rfl
    rw [List.concat_eq_append, hlast]
    exact Or.inr ⟨between, rfl, hlist⟩

/-- Taking out repetitions leaves none. Induction on the length: what follows the first entry is
taken from a filtered list. -/
theorem nodup_eraseDups [BEq α] [LawfulBEq α] (list : List α) : list.eraseDups.Nodup := by
  generalize hlength : list.length = length
  induction length using Nat.strongRecOn generalizing list with
  | ind length ih =>
    cases list with
    | nil => exact List.nodup_nil
    | cons first rest =>
      rw [List.eraseDups_cons, List.nodup_cons]
      refine ⟨?_, ?_⟩
      · rw [List.mem_eraseDups, List.mem_filter]
        simp
      · have hle := List.length_filter_le (fun entry => !entry == first) rest
        rw [List.length_cons] at hlength
        exact ih _ (by omega) _ rfl

theorem eraseDups_append_singleton [BEq α] [LawfulBEq α] (list : List α) (last : α) :
    (list ++ [last]).eraseDups = list.eraseDups ++ if last ∈ list then [] else [last] := by
  rw [List.eraseDups_append]
  by_cases hlast : last ∈ list <;> simp [List.removeAll, List.eraseDups_cons, hlast]

/-- A run is all that is taken if what follows it does not go on. -/
theorem takeWhile_append_stop {p : α → Bool} {run tail : List α} (hrun : ∀ a ∈ run, p a = true)
    (htail : ∀ a ∈ tail.head?, p a = false) : (run ++ tail).takeWhile p = run := by
  rw [List.takeWhile_append_of_pos hrun]
  cases tail with
  | nil => rw [List.takeWhile_nil, List.append_nil]
  | cons a tail =>
    have ha : ¬ p a = true := by simp [htail a rfl]
    rw [List.takeWhile_cons_of_neg ha, List.append_nil]

/-- What follows a run is all that is left if it does not go on. -/
theorem dropWhile_append_stop {p : α → Bool} {run tail : List α} (hrun : ∀ a ∈ run, p a = true)
    (htail : ∀ a ∈ tail.head?, p a = false) : (run ++ tail).dropWhile p = tail := by
  rw [List.dropWhile_append_of_pos hrun]
  cases tail with
  | nil => rfl
  | cons a tail =>
    have ha : ¬ p a = true := by simp [htail a rfl]
    rw [List.dropWhile_cons_of_neg ha]

/-- Two lists that are equal are equal up to the first place of an entry and from there on. -/
theorem eq_of_append_cons_eq {front front' back back' : List α} {a : α} (h : a ∉ front)
    (h' : a ∉ front') (heq : front ++ a :: back = front' ++ a :: back') :
    front = front' ∧ back = back' := by
  -- one front cannot end before the other, since the entry would be in the longer one
  induction front generalizing front' with
  | nil =>
    cases front' with
    | nil => exact ⟨rfl, List.tail_eq_of_cons_eq heq⟩
    | cons b front' =>
      obtain rfl : a = b := List.head_eq_of_cons_eq heq
      exact absurd List.mem_cons_self h'
  | cons b front ih =>
    cases front' with
    | nil =>
      obtain rfl : b = a := List.head_eq_of_cons_eq heq
      exact absurd List.mem_cons_self h
    | cons b' front' =>
      obtain ⟨rfl, hmore⟩ := List.cons.inj heq
      obtain ⟨rfl, hback⟩ :=
        ih (List.not_mem_of_not_mem_cons h) (List.not_mem_of_not_mem_cons h') hmore
      exact ⟨rfl, hback⟩

/-- A list with a repetition has an entry at two places. -/
theorem exists_split_of_not_nodup {list : List α} (h : ¬ list.Nodup) :
    ∃ front a between back, list = front ++ a :: (between ++ a :: back) := by
  induction list with
  | nil => exact absurd List.nodup_nil h
  | cons a list ih =>
    -- either the first entry is repeated, or the repetition is among the others
    by_cases ha : a ∈ list
    · obtain ⟨between, back, rfl⟩ := List.append_of_mem ha
      exact ⟨[], a, between, back, rfl⟩
    · have hlist : ¬ list.Nodup := fun hnodup => h (List.nodup_cons.mpr ⟨ha, hnodup⟩)
      obtain ⟨front, b, between, back, rfl⟩ := ih hlist
      exact ⟨a :: front, b, between, back, rfl⟩

/-- What is in lists with a separator between them is in the separator or in one of the lists. -/
theorem mem_intercalate {separator : List α} {lists : List (List α)} {a : α}
    (h : a ∈ separator.intercalate lists) : a ∈ separator ∨ ∃ list ∈ lists, a ∈ list := by
  induction lists with
  | nil => exact absurd h List.not_mem_nil
  | cons first lists ih =>
    cases lists with
    | nil =>
      rw [List.intercalate_singleton] at h
      exact Or.inr ⟨first, List.mem_cons_self, h⟩
    | cons second lists =>
      rw [List.intercalate_cons_cons, List.mem_append, List.mem_append] at h
      rcases h with (hfirst | hseparator) | hmore
      · exact Or.inr ⟨first, List.mem_cons_self, hfirst⟩
      · exact Or.inl hseparator
      · rcases ih hmore with hseparator | ⟨list, hlist, ha⟩
        · exact Or.inl hseparator
        · exact Or.inr ⟨list, List.mem_cons_of_mem _ hlist, ha⟩

/-- An image that does not tell related entries apart does not tell related lists apart. -/
theorem map_eq_of_forall₂ {β : Type} {R : α → α → Prop} {f : α → β} {list list' : List α}
    (h : List.Forall₂ R list list') (hf : ∀ a a', R a a' → f a = f a') :
    list.map f = list'.map f := by
  rw [← List.forall₂_eq_eq_eq, List.forall₂_map_left_iff, List.forall₂_map_right_iff]
  exact h.imp hf

theorem exists_cons_cons_of_two_le {list : List α} (h : 2 ≤ list.length) :
    ∃ a b rest, list = a :: b :: rest := by
  match list, h with
  | a :: b :: rest, _ => exact ⟨a, b, rest, rfl⟩

/-! ## Results -/

/-- One computation after the other succeeds if the first one does, and then the second on its
result. -/
theorem bind_eq_ok_iff {ε α β : Type} {x : Except ε α} {f : α → Except ε β} {b : β} :
    x >>= f = .ok b ↔ ∃ a, x = .ok a ∧ f a = .ok b := by
  cases x with
  | error e => exact ⟨fun h => (nomatch h), fun ⟨_, h, _⟩ => (nomatch h)⟩
  | ok a => exact ⟨fun h => ⟨a, rfl, h⟩, fun ⟨_, h, hf⟩ => Except.ok.inj h ▸ hf⟩

theorem map_eq_ok_iff {ε α β : Type} {x : Except ε α} {f : α → β} {b : β} :
    x.map f = .ok b ↔ ∃ a, x = .ok a ∧ f a = b := by
  cases x <;> simp [Except.map]

end Registrar
