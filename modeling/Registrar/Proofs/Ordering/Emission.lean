import Mathlib.Data.List.FinRange
import Mathlib.Data.List.Nodup
import Registrar.Ordering
import Registrar.Proofs.Ordering.ComesAfter

/-!
# The emission, round by round

What holds of the emission in every round, and what that says of its end. The counters are read
against the constraints: a position waits for as many others as stand before it and are not emitted
yet, and for one more while it has not been told of the last emission.

* `Progress.Counted` : the invariant; `Progress.Counted.release` says that telling one more position
  keeps it, `Progress.Counted.step` that a round does, `Constraints.counted_rounds` that all do.
* `Constraints.finish_ready` : in the end nothing is ready.
* `Constraints.emitted_append_blocked_perm` : each position is either emitted or blocked.
* `Constraints.mem_blocked_iff_cycle` : blocked are those that lead to a cycle.
-/

namespace Registrar.Ordering

open Relation

variable {n : Nat}

/-! ## §1 — the constraints -/

namespace Constraints

/-- `i` waits for `j`. -/
def WaitsFor (c : Constraints n) (i j : Fin n) : Prop := j ∈ c.before.get i

/-- The two sides of the constraints say the same: each position that waits for another is listed
there, once. -/
structure Matched (c : Constraints n) : Prop where
  mem_after : ∀ i j, j ∈ c.after.get i ↔ c.WaitsFor j i
  nodup_after : ∀ i, (c.after.get i).Nodup

/-- Constraints that are made from one side have both sides. -/
theorem matched_ofBefore (before : Vector (Marks n) n) : (ofBefore before).Matched := by
  refine ⟨?_, ?_⟩
  · intro i j
    simp [ofBefore, WaitsFor, get_eq_getElem]
  · intro i
    simp only [ofBefore, get_eq_getElem, Vector.getElem_ofFn]
    exact (List.nodup_finRange n).filter _

theorem waitsFor_ofGraph_iff {g : Graph n} {i j : Fin n} :
    (ofGraph g).WaitsFor i j ↔ j ∈ g.before i := by
  simp [ofGraph, ofBefore, WaitsFor, get_eq_getElem]

/-- What `i` still waits for when these are emitted. -/
def outstanding (c : Constraints n) (emitted : List (Fin n)) (i : Fin n) : List (Fin n) :=
  (c.before.get i).toList.filter fun j => !emitted.contains j

theorem mem_outstanding {c : Constraints n} {emitted : List (Fin n)} {i j : Fin n} :
    j ∈ c.outstanding emitted i ↔ c.WaitsFor i j ∧ j ∉ emitted := by
  simp [outstanding, WaitsFor]

theorem nodup_outstanding (c : Constraints n) (emitted : List (Fin n)) (i : Fin n) :
    (c.outstanding emitted i).Nodup :=
  ((List.nodup_finRange n).filter _).filter _

/-- One more emission takes the emitted position away from what is outstanding. -/
theorem outstanding_snoc (c : Constraints n) (emitted : List (Fin n)) (i k : Fin n) :
    c.outstanding (emitted ++ [k]) i = (c.outstanding emitted i).erase k := by
  rw [(c.nodup_outstanding emitted i).erase_eq_filter, outstanding, outstanding,
    List.filter_filter]
  apply List.filter_congr
  intro j _
  by_cases hjk : j = k <;> simp [hjk]

/-- An emission settles one wait of each position that waits for the emitted one. -/
theorem length_outstanding_snoc {c : Constraints n} (hc : c.Matched) {emitted : List (Fin n)}
    {k : Fin n} (hk : k ∉ emitted) (i : Fin n) :
    (c.outstanding emitted i).length =
      (c.outstanding (emitted ++ [k]) i).length + (c.after.get k).count i := by
  rw [outstanding_snoc]
  -- a position that does not wait for the emitted one is not told of it either
  by_cases hik : c.WaitsFor i k
  · have hmem : k ∈ c.outstanding emitted i := mem_outstanding.mpr ⟨hik, hk⟩
    have hcount : (c.after.get k).count i = 1 :=
      List.count_eq_one_of_mem (hc.nodup_after k) ((hc.mem_after k i).mpr hik)
    have hpos : 0 < (c.outstanding emitted i).length := List.length_pos_of_mem hmem
    rw [List.length_erase_of_mem hmem, hcount]
    omega
  · have hmem : k ∉ c.outstanding emitted i := fun h => hik (mem_outstanding.mp h).1
    have hcount : (c.after.get k).count i = 0 :=
      List.count_eq_zero.mpr fun h => hik ((hc.mem_after k i).mp h)
    rw [List.erase_of_not_mem hmem, hcount, Nat.add_zero]

end Constraints

/-! ## §2 — rising lists -/

/-- Sorting a position into a list adds just this position. -/
theorem mem_insertRising {i j : Fin n} {list : List (Fin n)} :
    j ∈ insertRising i list ↔ j = i ∨ j ∈ list := by
  induction list with
  | nil => simp [insertRising]
  | cons k rest ih =>
    unfold insertRising
    split
    · rw [List.mem_cons]
    · rw [List.mem_cons, ih, List.mem_cons]
      tauto

/-- A new position is sorted in, so the list still rises. -/
theorem pairwise_insertRising {i : Fin n} {list : List (Fin n)} (h : list.Pairwise (· < ·))
    (hi : i ∉ list) : (insertRising i list).Pairwise (· < ·) := by
  induction list with
  | nil => simp [insertRising]
  | cons k rest ih =>
    obtain ⟨hk, hrest⟩ := List.pairwise_cons.mp h
    obtain ⟨hik, hi⟩ := List.ne_and_not_mem_of_not_mem_cons hi
    unfold insertRising
    split
    · next hle =>
      have hlt : i < k := lt_of_le_of_ne hle hik
      refine List.pairwise_cons.mpr ⟨?_, h⟩
      intro j hj
      rcases List.mem_cons.mp hj with rfl | hj
      · exact hlt
      · exact hlt.trans (hk j hj)
    · next hle =>
      refine List.pairwise_cons.mpr ⟨?_, ih hrest hi⟩
      intro j hj
      rcases mem_insertRising.mp hj with rfl | hj
      · exact lt_of_not_ge hle
      · exact hk j hj

/-! ## §3 — the invariant

`untold` are the positions that have not been told of the last emission yet. Between two rounds
there are none, and each counter is exactly the number of outstanding positions. -/

namespace Progress

/-- What holds of the emission while the positions `untold` still have to be told of the last one. -/
structure Counted (c : Constraints n) (p : Progress n) (untold : List (Fin n)) : Prop where
  waiting : ∀ i, p.waiting.get i = (c.outstanding p.emitted i).length + untold.count i
  mem_ready : ∀ i, i ∈ p.ready ↔ p.waiting.get i = 0 ∧ i ∉ p.emitted
  ready_rising : p.ready.Pairwise (· < ·)
  emitted_nodup : p.emitted.Nodup
  emitted_comesAfter : ComesAfter c.WaitsFor p.emitted
  untold_new : ∀ i ∈ untold, i ∉ p.emitted

theorem emitted_release (p : Progress n) (i : Fin n) : (p.release i).emitted = p.emitted := rfl

theorem ready_release (p : Progress n) (i : Fin n) :
    (p.release i).ready =
      if p.waiting.get i - 1 = 0 then insertRising i p.ready else p.ready := rfl

/-- Telling a position takes one off its own counter. -/
theorem waiting_release (p : Progress n) (i j : Fin n) :
    (p.release i).waiting.get j =
      if j = i then p.waiting.get i - 1 else p.waiting.get j := by
  by_cases hji : j = i
  · subst hji
    simp [release, get_eq_getElem]
  · have hne : (i : Nat) ≠ j := fun h => hji (Fin.ext h.symm)
    simp [release, get_eq_getElem, hji, hne]

/-- Telling a position makes it ready, if its counter falls to zero, and nobody else. -/
theorem mem_ready_release (p : Progress n) (i j : Fin n) :
    j ∈ (p.release i).ready ↔ j = i ∧ p.waiting.get i - 1 = 0 ∨ j ∈ p.ready := by
  rw [ready_release]
  by_cases hleft : p.waiting.get i - 1 = 0
  · rw [if_pos hleft, mem_insertRising]
    simp [hleft]
  · rw [if_neg hleft]
    simp [hleft]

namespace Counted

variable {c : Constraints n} {p : Progress n} {i : Fin n} {untold : List (Fin n)}

theorem outstanding_eq_nil (h : Counted c p untold) (hi : i ∈ p.emitted) :
    c.outstanding p.emitted i = [] := by
  rw [List.eq_nil_iff_forall_not_mem]
  intro j hj
  obtain ⟨hij, hnew⟩ := Constraints.mem_outstanding.mp hj
  exact hnew (h.emitted_comesAfter.mem_of_mem hi hij)

/-- Who has not been told waits for one at least: the counter never goes below zero. -/
theorem waiting_pos (h : Counted c p (i :: untold)) : 0 < p.waiting.get i := by
  rw [h.waiting i, List.count_cons_self]
  omega

/-- **Telling one more position keeps the invariant.** -/
theorem release (h : Counted c p (i :: untold)) : Counted c (p.release i) untold := by
  have hpos : 0 < p.waiting.get i := h.waiting_pos
  have hi : i ∉ p.emitted := h.untold_new i List.mem_cons_self
  have hready : i ∉ p.ready := fun hmem => by
    have := ((h.mem_ready i).mp hmem).1
    omega
  refine ⟨?_, ?_, ?_, h.emitted_nodup, h.emitted_comesAfter, ?_⟩
  · -- the counter of `i` falls as `i` leaves those to be told; no other one changes
    intro j
    rw [waiting_release, emitted_release]
    by_cases hji : j = i
    · subst hji
      rw [if_pos rfl, h.waiting j, List.count_cons_self]
      omega
    · rw [if_neg hji, h.waiting j, List.count_cons_of_ne (Ne.symm hji)]
  · -- `i` becomes ready if its counter falls to zero
    intro j
    rw [mem_ready_release, waiting_release, emitted_release]
    by_cases hji : j = i
    · subst hji
      rw [if_pos rfl]
      simp [hready, hi]
    · rw [if_neg hji, ← h.mem_ready j]
      simp [hji]
  · rw [ready_release]
    split
    · exact pairwise_insertRising h.ready_rising hready
    · exact h.ready_rising
  · intro j hj
    exact h.untold_new j (List.mem_cons_of_mem _ hj)

/-- Telling all of them leads to the state between two rounds. Induction on those that are left. -/
theorem foldl_release (h : Counted c p untold) : Counted c (untold.foldl Progress.release p) [] := by
  induction untold generalizing p with
  | nil => exact h
  | cons i untold ih => exact ih h.release

/-- Emitting the first ready position leaves those to be told that wait for it. -/
theorem emit (hc : c.Matched) (h : Counted c p []) {ready : List (Fin n)}
    (hp : p.ready = i :: ready) :
    Counted c { p with ready, emitted := p.emitted ++ [i] } (c.after.get i) := by
  have hrising := h.ready_rising
  rw [hp] at hrising
  obtain ⟨hfirst, hrest⟩ := List.pairwise_cons.mp hrising
  obtain ⟨hzero, hnew⟩ := (h.mem_ready i).mp (by rw [hp]; exact List.mem_cons_self)
  -- `i` waits for nothing, so all that it waits for is emitted
  have hnone : c.outstanding p.emitted i = [] := by
    have hi := h.waiting i
    rw [hzero, List.count_nil, Nat.add_zero] at hi
    exact List.eq_nil_of_length_eq_zero hi.symm
  have hbefore : ∀ j, c.WaitsFor i j → j ∈ p.emitted := by
    intro j hij
    by_contra hj
    have hmem : j ∈ c.outstanding p.emitted i := Constraints.mem_outstanding.mpr ⟨hij, hj⟩
    rw [hnone] at hmem
    exact List.not_mem_nil hmem
  refine ⟨?_, ?_, hrest, ?_, h.emitted_comesAfter.snoc hbefore, ?_⟩
  · intro j
    show p.waiting.get j = _
    rw [h.waiting j, List.count_nil, Nat.add_zero]
    exact Constraints.length_outstanding_snoc hc hnew j
  · intro j
    show j ∈ ready ↔ p.waiting.get j = 0 ∧ j ∉ p.emitted ++ [i]
    -- nobody becomes ready by the emission itself, and only the emitted one stops being ready
    have hj := h.mem_ready j
    rw [hp, List.mem_cons] at hj
    by_cases hji : j = i
    · subst hji
      have hnot : j ∉ ready := fun hmem => lt_irrefl j (hfirst j hmem)
      simp [hnot]
    · simpa [hji] using hj
  · rw [List.nodup_append]
    refine ⟨h.emitted_nodup, List.nodup_singleton i, ?_⟩
    rintro a ha b hb rfl
    obtain rfl := List.mem_singleton.mp hb
    exact hnew ha
  · -- whoever waits for `i` cannot have been emitted before it, nor be `i` itself
    intro j hj hmem
    have hji : c.WaitsFor j i := (hc.mem_after i j).mp hj
    rcases List.mem_append.mp hmem with hmem | hmem
    · exact hnew (h.emitted_comesAfter.mem_of_mem hmem hji)
    · obtain rfl := List.mem_singleton.mp hmem
      exact hnew (hbefore j hji)

/-- **A round keeps the invariant.** -/
theorem step (hc : c.Matched) (h : Counted c p []) : Counted c (p.step c) [] := by
  unfold Progress.step
  split
  · exact h
  · next i ready hp => exact (h.emit hc hp).foldl_release

end Counted

theorem emitted_foldl_release (told : List (Fin n)) (p : Progress n) :
    (told.foldl release p).emitted = p.emitted := by
  induction told generalizing p with
  | nil => rfl
  | cons i told ih => exact ih (p.release i)

theorem emitted_step {c : Constraints n} {p : Progress n} {i : Fin n} {ready : List (Fin n)}
    (hp : p.ready = i :: ready) : (p.step c).emitted = p.emitted ++ [i] := by
  rw [step, hp]
  exact emitted_foldl_release _ _

theorem length_emitted_step (c : Constraints n) (p : Progress n) (h : p.ready ≠ []) :
    (p.step c).emitted.length = p.emitted.length + 1 := by
  obtain ⟨i, ready, hp⟩ := List.exists_cons_of_ne_nil h
  rw [emitted_step hp, List.length_append, List.length_singleton]

end Progress

/-! ## §4 — all rounds -/

namespace Constraints

/-- The invariant holds before the first round: the counters are the numbers of those that come
before. -/
theorem counted_start (c : Constraints n) : Progress.Counted c c.start [] := by
  refine ⟨?_, ?_, ?_, List.nodup_nil, ComesAfter.nil, ?_⟩
  · intro i
    simp [start, outstanding, Marks.size, get_eq_getElem]
  · intro i
    simp [start]
  · exact (List.pairwise_lt_finRange n).filter _
  · intro i hi
    exact absurd hi List.not_mem_nil

/-- The invariant holds after any number of rounds. -/
theorem counted_rounds {c : Constraints n} (hc : c.Matched) (count : Nat) :
    Progress.Counted c (c.rounds count) [] := by
  induction count with
  | zero => exact c.counted_start
  | succ count ih => exact ih.step hc

theorem counted_finish {c : Constraints n} (hc : c.Matched) : Progress.Counted c c.finish [] :=
  counted_rounds hc n

/-- As long as something is ready, every round has emitted one position. -/
theorem length_emitted_rounds (c : Constraints n) (count : Nat) (h : (c.rounds count).ready ≠ []) :
    (c.rounds count).emitted.length = count := by
  induction count with
  | zero => rfl
  | succ count ih =>
    have hstep : c.rounds (count + 1) = (c.rounds count).step c := rfl
    -- had nothing been ready before, nothing would be ready now
    have hready : (c.rounds count).ready ≠ [] := by
      intro hnil
      apply h
      rw [hstep, Progress.step, hnil]
      exact hnil
    rw [hstep, Progress.length_emitted_step c _ hready, ih hready]

/-- **In the end nothing is ready**: there are no more than `n` positions to emit. -/
theorem finish_ready {c : Constraints n} (hc : c.Matched) : c.finish.ready = [] := by
  by_contra hready
  obtain ⟨i, hi⟩ := List.exists_mem_of_ne_nil _ hready
  have hcounted := counted_finish hc
  have hnew : i ∉ c.finish.emitted := ((hcounted.mem_ready i).mp hi).2
  have hlength : c.finish.emitted.length = n := c.length_emitted_rounds n hready
  -- one position is ready and `n` others are emitted, which are too many
  have hle : (i :: c.finish.emitted).length ≤ Fintype.card (Fin n) :=
    (List.nodup_cons.mpr ⟨hnew, hcounted.emitted_nodup⟩).length_le_card
  rw [List.length_cons, hlength, Fintype.card_fin] at hle
  omega

/-- Blocked are those that were never emitted: in the end a counter is zero only for those that
were. -/
theorem mem_blocked_iff {c : Constraints n} (hc : c.Matched) {i : Fin n} :
    i ∈ c.finish.blocked ↔ i ∉ c.finish.emitted := by
  have hcounted := counted_finish hc
  have hblocked : i ∈ c.finish.blocked ↔ 0 < c.finish.waiting.get i := by
    simp [Progress.blocked]
  rw [hblocked]
  refine ⟨?_, ?_⟩
  · intro hpos hi
    rw [hcounted.waiting i, hcounted.outstanding_eq_nil hi] at hpos
    exact absurd hpos (by simp)
  · intro hi
    -- a counter of zero would make it ready, but nothing is
    by_contra hzero
    have hready : i ∈ c.finish.ready := (hcounted.mem_ready i).mpr ⟨by omega, hi⟩
    rw [finish_ready hc] at hready
    exact List.not_mem_nil hready

theorem blocked_rising (c : Constraints n) : c.finish.blocked.Pairwise (· < ·) :=
  (List.pairwise_lt_finRange n).filter _

/-- **Every position is emitted or blocked, and only once.** -/
theorem emitted_append_blocked_perm {c : Constraints n} (hc : c.Matched) :
    (c.finish.emitted ++ c.finish.blocked).Perm (List.finRange n) := by
  have hnodup : (c.finish.emitted ++ c.finish.blocked).Nodup := by
    rw [List.nodup_append]
    refine ⟨(counted_finish hc).emitted_nodup, c.blocked_rising.imp ne_of_lt, ?_⟩
    rintro a ha b hb rfl
    exact (mem_blocked_iff hc).mp hb ha
  rw [List.perm_ext_iff_of_nodup hnodup (List.nodup_finRange n)]
  intro i
  rw [List.mem_append, mem_blocked_iff hc]
  simp [em]

theorem blocked_of_waitsFor {c : Constraints n} (hc : c.Matched) {i j : Fin n}
    (hij : c.WaitsFor i j) (hj : j ∈ c.finish.blocked) : i ∈ c.finish.blocked := by
  rw [mem_blocked_iff hc] at hj ⊢
  exact fun hi => hj ((counted_finish hc).emitted_comesAfter.mem_of_mem hi hij)

/-- Whoever is blocked waits for someone who is. -/
theorem exists_waitsFor_blocked {c : Constraints n} (hc : c.Matched) {i : Fin n}
    (hi : i ∈ c.finish.blocked) : ∃ j, c.WaitsFor i j ∧ j ∈ c.finish.blocked := by
  have hpos : 0 < c.finish.waiting.get i := by
    have := (List.mem_filter.mp hi).2
    simpa using this
  rw [(counted_finish hc).waiting i, List.count_nil, Nat.add_zero] at hpos
  obtain ⟨j, hj⟩ := List.exists_mem_of_length_pos hpos
  obtain ⟨hij, hnew⟩ := mem_outstanding.mp hj
  exact ⟨j, hij, (mem_blocked_iff hc).mpr hnew⟩

/-- **Blocked are exactly the positions that lead to a cycle.** -/
theorem mem_blocked_iff_cycle {c : Constraints n} (hc : c.Matched) {i : Fin n} :
    i ∈ c.finish.blocked ↔
      ∃ k, ReflTransGen c.WaitsFor i k ∧ TransGen c.WaitsFor k k := by
  refine ⟨?_, ?_⟩
  · intro hi
    exact exists_cycle_of_forall_exists (fun _ => exists_waitsFor_blocked hc) hi
  · rintro ⟨k, hik, hkk⟩
    have hcounted := counted_finish hc
    have hk : k ∈ c.finish.blocked := by
      rw [mem_blocked_iff hc]
      intro hk
      exact hcounted.emitted_comesAfter.not_transGen_self hcounted.emitted_nodup hk hkk
    -- backwards along the way: who waits for a blocked position is blocked
    induction hik using ReflTransGen.head_induction_on with
    | refl => exact hk
    | head hab _ ih => exact blocked_of_waitsFor hc hab ih

end Constraints

end Registrar.Ordering
