import Registrar.Proofs.Ordering.Emission

/-!
# The counters of the emission

The emission counts, for each position, how many others it still waits for, and it never recounts.
So the counters are right only if every emission is told to each of the positions that wait for it,
and to none of them twice. Here the emission is taken apart into its smallest steps, an emission and
one telling after the other, and all that became ready on the way is kept in a list. At each of these
moments the counters are right, no counter falls below zero, and whatever became ready did so once,
after all that comes before it was emitted.

* `Moment` : the states that the emission goes through, the ones within a round included.
* `Moment.counted` : the invariant of the rounds holds at every moment.
* `Moment.perm_entered` : who became ready is emitted or still ready.
* `Moment.tally` : what the counters say.
* `tally_emission` : so it is from the start to the end, which leaves each position on one side.
-/

namespace Registrar.Ordering

variable {n : Nat}

/-! ## §1 — moments -/

/-- The states of an emission: `untold` have still to be told of the last one, and `entered` are the
positions that have become ready so far, in the order in which they did. -/
inductive Moment (c : Constraints n) :
    Progress n → (untold entered : List (Fin n)) → Prop where
  | start : Moment c c.start [] c.start.ready
  | emit {p : Progress n} {i : Fin n} {ready entered : List (Fin n)}
      (between : Moment c p [] entered) (first : p.ready = i :: ready) :
      Moment c { p with ready, emitted := p.emitted ++ [i] } (c.after.get i) entered
  | tell {p : Progress n} {i : Fin n} {untold entered : List (Fin n)}
      (during : Moment c p (i :: untold) entered) :
      Moment c (p.release i) untold
        (if p.waiting.get i - 1 = 0 then entered ++ [i] else entered)

namespace Moment

variable {c : Constraints n} {p : Progress n} {untold entered : List (Fin n)}

/-- **The invariant of the rounds holds at every moment.** -/
theorem counted (hc : c.Matched) (h : Moment c p untold entered) :
    Progress.Counted c p untold := by
  induction h with
  | start => exact c.counted_start
  | emit _ first ih => exact ih.emit hc first
  | tell _ ih => exact ih.release

/-- Telling all that have to be told leads to the moment between two rounds. -/
theorem foldl_release (h : Moment c p untold entered) :
    ∃ entered', Moment c (untold.foldl Progress.release p) [] entered' := by
  induction untold generalizing p entered with
  | nil => exact ⟨entered, h⟩
  | cons i untold ih => exact ih h.tell

theorem step (h : Moment c p [] entered) : ∃ entered', Moment c (p.step c) [] entered' := by
  unfold Progress.step
  split
  · exact ⟨entered, h⟩
  · next i ready hp => exact (h.emit hp).foldl_release

/-- The emission goes through the states that its rounds end with. -/
theorem rounds (c : Constraints n) (count : Nat) :
    ∃ entered, Moment c (c.rounds count) [] entered := by
  induction count with
  | zero => exact ⟨_, .start⟩
  | succ count ih =>
    obtain ⟨entered, h⟩ := ih
    exact h.step

end Moment

/-! ## §2 — who became ready -/

/-- Sorting a position into a list adds it, wherever it goes. -/
theorem perm_insertRising (i : Fin n) (list : List (Fin n)) :
    (insertRising i list).Perm (list ++ [i]) := by
  induction list with
  | nil => exact .refl _
  | cons j rest ih =>
    unfold insertRising
    split
    · exact (List.perm_append_singleton i (j :: rest)).symm
    · exact ih.cons j

namespace Moment

variable {c : Constraints n} {p : Progress n} {untold entered : List (Fin n)}

/-- **Who became ready is emitted or still ready.** Becoming ready adds to both sides, and an
emission only moves a position from the ready ones to the emitted ones. -/
theorem perm_entered (h : Moment c p untold entered) : entered.Perm (p.emitted ++ p.ready) := by
  induction h with
  | start => exact .refl _
  | @emit p i ready entered _ first ih =>
    show entered.Perm (p.emitted ++ [i] ++ ready)
    rw [List.append_assoc, List.singleton_append, ← first]
    exact ih
  | @tell p i untold entered _ ih =>
    rw [Progress.emitted_release, Progress.ready_release]
    split
    · -- `i` becomes ready: a new last entry, sorted into the ready ones
      refine (ih.append_right [i]).trans ?_
      rw [List.append_assoc]
      exact (perm_insertRising i p.ready).symm.append_left p.emitted
    · exact ih

/-- Nobody becomes ready twice: the emitted and the ready positions are different ones. -/
theorem nodup_entered (hc : c.Matched) (h : Moment c p untold entered) : entered.Nodup := by
  have hcounted := h.counted hc
  rw [h.perm_entered.nodup_iff, List.nodup_append]
  refine ⟨hcounted.emitted_nodup, hcounted.ready_rising.imp ne_of_lt, ?_⟩
  rintro a ha b hb rfl
  -- who is ready is not emitted
  exact ((hcounted.mem_ready a).mp hb).2 ha

/-- Whatever comes before a position that became ready was emitted. -/
theorem emitted_of_mem_entered (hc : c.Matched) (h : Moment c p untold entered) {i j : Fin n}
    (hi : i ∈ entered) (hij : c.WaitsFor i j) : j ∈ p.emitted := by
  have hcounted := h.counted hc
  rcases List.mem_append.mp (h.perm_entered.mem_iff.mp hi) with hi | hi
  · exact hcounted.emitted_comesAfter.mem_of_mem hi hij
  · -- a ready position has a counter of zero, so nothing is outstanding
    have hzero : p.waiting.get i = 0 := ((hcounted.mem_ready i).mp hi).1
    by_contra hj
    have hmem : j ∈ c.outstanding p.emitted i := Constraints.mem_outstanding.mpr ⟨hij, hj⟩
    have hpos : 0 < (c.outstanding p.emitted i).length := List.length_pos_of_mem hmem
    have hwaiting := hcounted.waiting i
    omega

end Moment

/-! ## §3 — what the counters say -/

/-- How many of those that come before `i` are not emitted. -/
def remaining (g : Graph n) (emitted : List (Fin n)) (i : Fin n) : Nat :=
  (List.finRange n).countP fun j => decide (j ∈ g.before i) && !emitted.contains j

/-- The number of those that a position still waits for, said without the constraints. -/
theorem length_outstanding (g : Graph n) (emitted : List (Fin n)) (i : Fin n) :
    ((Constraints.ofGraph g).outstanding emitted i).length = remaining g emitted i := by
  have hbefore : (Constraints.ofGraph g).before.get i = g.before i := by
    simp [Constraints.ofGraph, Constraints.ofBefore, get_eq_getElem]
  rw [Constraints.outstanding, hbefore, Marks.toList, List.filter_filter, remaining,
    List.countP_eq_length_filter]
  refine congrArg List.length (List.filter_congr fun j _ => ?_)
  exact Bool.and_comm _ _

/-- What holds at a moment of the emission of a graph. -/
structure Tally (g : Graph n) (p : Progress n) (untold entered : List (Fin n)) : Prop where
  /-- A counter is the number of those that come before and are not emitted, and one more for each
  time that its position has still to be told. -/
  waiting : ∀ i, p.waiting.get i = remaining g p.emitted i + untold.count i
  /-- Whoever has to be told has a counter that can fall. -/
  untold_pos : ∀ i ∈ untold, 0 < p.waiting.get i
  entered_nodup : entered.Nodup
  emitted_nodup : p.emitted.Nodup
  /-- Whoever became ready is emitted, or is ready now. -/
  entered_perm : entered.Perm (p.emitted ++ p.ready)
  before_emitted : ∀ i ∈ entered, ∀ j ∈ g.before i, j ∈ p.emitted

/-- **The counters are right at a moment**, in terms of the graph alone. -/
theorem Moment.tally {g : Graph n} {p : Progress n} {untold entered : List (Fin n)}
    (h : Moment (.ofGraph g) p untold entered) : Tally g p untold entered := by
  have hmatched : (Constraints.ofGraph g).Matched := Constraints.matched_ofBefore _
  have hcounted := h.counted hmatched
  have hwaiting : ∀ i, p.waiting.get i = remaining g p.emitted i + untold.count i := by
    intro i
    rw [hcounted.waiting i, length_outstanding]
  refine ⟨hwaiting, ?_, h.nodup_entered hmatched, hcounted.emitted_nodup, h.perm_entered, ?_⟩
  · intro i hi
    have hcount : 0 < untold.count i := List.count_pos_iff.mpr hi
    have := hwaiting i
    omega
  · intro i hi j hj
    exact h.emitted_of_mem_entered hmatched hi (Constraints.waitsFor_ofGraph_iff.mpr hj)

/-- **The counters are right at every moment**, between the rounds as well as within them. In the end
nothing is ready, and each position is emitted or blocked, but not both. -/
theorem tally_emission (g : Graph n) :
    (∀ p untold entered, Moment (.ofGraph g) p untold entered → Tally g p untold entered) ∧
    (∀ count, ∃ entered, Moment (.ofGraph g) ((Constraints.ofGraph g).rounds count) [] entered) ∧
    let finish := (Constraints.ofGraph g).finish
    finish.ready = [] ∧ List.Disjoint finish.emitted finish.blocked ∧
      (finish.emitted ++ finish.blocked).Perm (List.finRange n) := by
  have hmatched : (Constraints.ofGraph g).Matched := Constraints.matched_ofBefore _
  refine ⟨fun _ _ _ h => h.tally, Moment.rounds _, Constraints.finish_ready hmatched, ?_,
    Constraints.emitted_append_blocked_perm hmatched⟩
  intro i hemitted hblocked
  exact (Constraints.mem_blocked_iff hmatched).mp hblocked hemitted

end Registrar.Ordering
