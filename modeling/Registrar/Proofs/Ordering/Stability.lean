import Mathlib.Data.List.Lex
import Registrar.Proofs.Ordering.Chains

/-!
# The order is stable

Among all arrangements in which every singleton comes after what it requires, the order of
registrations is the one that moves as little as it can: read as a sequence of positions, it is the
lexicographically least. The reason is local. Each round emits the first position that is ready, so
nobody that could have stood in the place of an emitted position comes before it in the list; and
where two arrangements part, this decides which of them is less.

* `TakesFirst` : each member of a list is the first of those that could stand in its place.
* `TakesFirst.le` : such a list is the least of its arrangements.
* `Constraints.takesFirst_rounds` : the emission is such a list in every round.
* `StableOrder.unique` : a list of descriptors has only one stable order.
* `order_stable` : the order of registrations is stable, and leaves a list as it is that is in order.
-/

namespace Registrar.Ordering

variable {n : Nat}

/-! ## §1 — the least arrangement -/

/-- Lists of one length are compared where they part. -/
theorem le_of_forall_split {α : Type} [LinearOrder α] {list other : List α}
    (hlength : list.length = other.length)
    (h : ∀ front a back b back', list = front ++ a :: back → other = front ++ b :: back' → a ≤ b) :
    list ≤ other := by
  induction list generalizing other with
  | nil =>
    have hnil : other = [] := List.eq_nil_of_length_eq_zero hlength.symm
    rw [hnil]
  | cons a list ih =>
    cases other with
    | nil => simp at hlength
    | cons b other =>
      have hab : a ≤ b := h [] a list b other rfl rfl
      rcases lt_or_eq_of_le hab with hlt | rfl
      · exact le_of_lt (List.Lex.rel hlt)
      · apply List.cons_le_cons
        apply ih (Nat.succ.inj hlength)
        intro front c back d back' hlist hother
        exact h (a :: front) c back d back' (by simp [hlist]) (by simp [hother])

/-- A rising list is the least arrangement of its members. -/
theorem le_of_rising {list other : List (Fin n)} (h : list.Pairwise (· < ·))
    (hperm : other.Perm list) : list ≤ other := by
  have hnodup : other.Nodup := hperm.nodup_iff.mpr (h.imp ne_of_lt)
  apply le_of_forall_split hperm.length_eq.symm
  intro front i back j back' hlist hother
  have hj : j ∉ front ++ back' := by
    rw [hother, List.nodup_middle] at hnodup
    exact (List.nodup_cons.mp hnodup).1
  have hmem : j ∈ front ++ i :: back := by
    rw [← hlist, ← hperm.mem_iff, hother]
    simp
  rw [hlist, List.pairwise_append, List.pairwise_cons] at h
  rcases List.mem_append.mp hmem with hfront | hrest
  · exact absurd (List.mem_append_left _ hfront) hj
  · rcases List.mem_cons.mp hrest with rfl | hback
    · exact le_refl j
    · exact le_of_lt (h.2.1.1 j hback)

/-! ## §2 — taking the first -/

/-- Each member is the first of all positions that could stand in its place: of those that are not
before it, and that are related to nothing but what is before it. -/
def TakesFirst (r : Fin n → Fin n → Prop) (order : List (Fin n)) : Prop :=
  ∀ earlier i later, order = earlier ++ i :: later →
    ∀ j, j ∉ earlier → (∀ k, r j k → k ∈ earlier) → i ≤ j

namespace TakesFirst

variable {r : Fin n → Fin n → Prop} {order other : List (Fin n)}

theorem nil : TakesFirst r [] := by
  intro earlier i later h
  simp at h

/-- A list that takes the first each time goes on with the first of all that could be taken next. -/
theorem snoc {i : Fin n} (h : TakesFirst r order)
    (hi : ∀ j, j ∉ order → (∀ k, r j k → k ∈ order) → i ≤ j) : TakesFirst r (order ++ [i]) := by
  intro earlier k later hsplit
  rcases eq_of_append_singleton_eq hsplit with ⟨-, rfl, rfl⟩ | ⟨between, -, horder⟩
  · exact hi
  · exact h earlier k between horder

/-- **Taking the first each time gives the least arrangement.** Where another one parts from it,
that one has to go on with a position that could have been taken there. -/
theorem le (h : TakesFirst r order) (hnodup : order.Nodup) (hperm : other.Perm order)
    (hother : ComesAfter r other) : order ≤ other := by
  have hnodup' : other.Nodup := hperm.nodup_iff.mpr hnodup
  apply le_of_forall_split hperm.length_eq.symm
  intro front i back j back' horder hsplit
  -- up to here they agree, so `j` was there to be taken instead of `i`
  have hj : j ∉ front := by
    rw [hsplit, List.nodup_middle, List.nodup_cons] at hnodup'
    exact fun hmem => hnodup'.1 (List.mem_append_left _ hmem)
  have hbefore : ∀ k, r j k → k ∈ front := hother front j back' hsplit
  exact h front i back horder j hj hbefore

/-- Whatever is related to nothing could have stood in any place before its own. -/
theorem lt_of_free (h : TakesFirst r order) (hnodup : order.Nodup) :
    order.Pairwise fun i j => (∀ k, ¬ r j k) → i < j := by
  rw [List.pairwise_iff_forall_sublist]
  intro i j hsub hfree
  obtain ⟨front, back, horder, hi, hj⟩ := List.cons_sublist_iff.mp hsub
  obtain ⟨earlier, between, hfront⟩ := List.append_of_mem hi
  rw [List.singleton_sublist] at hj
  have hsplit : order = earlier ++ i :: (between ++ back) := by simp [horder, hfront]
  have hmem : j ∈ between ++ back := List.mem_append_right _ hj
  rw [hsplit, List.nodup_append, List.nodup_cons] at hnodup
  have hne : i ≠ j := fun heq => hnodup.2.1.1 (heq ▸ hmem)
  have hearlier : j ∉ earlier := fun hj' =>
    hnodup.2.2 j hj' j (List.mem_cons_of_mem _ hmem) rfl
  have hle : i ≤ j := h earlier i _ hsplit j hearlier fun k hk => absurd hk (hfree k)
  exact lt_of_le_of_ne hle hne

end TakesFirst

/-- If everything is related to what stands before it, nothing has to be moved. -/
theorem comesAfter_finRange {r : Fin n → Fin n → Prop} (h : ∀ i j, r i j → j < i) :
    ComesAfter r (List.finRange n) := by
  intro earlier i later horder j hij
  have hrising := List.pairwise_lt_finRange n
  rw [horder, List.pairwise_append, List.pairwise_cons] at hrising
  have hmem : j ∈ earlier ++ i :: later := horder ▸ List.mem_finRange j
  have hlt : j < i := h i j hij
  rcases List.mem_append.mp hmem with hearlier | hrest
  · exact hearlier
  · rcases List.mem_cons.mp hrest with rfl | hlater
    · exact absurd hlt (lt_irrefl j)
    · exact absurd hlt (hrising.2.1.1 j hlater).asymm

/-! ## §3 — the emission takes the first -/

/-- Between two rounds, whoever waits only for what is emitted is ready. -/
theorem Progress.Counted.mem_ready_of_waitsFor {c : Constraints n} {p : Progress n} {j : Fin n}
    (h : Progress.Counted c p []) (hj : j ∉ p.emitted)
    (hwaits : ∀ k, c.WaitsFor j k → k ∈ p.emitted) : j ∈ p.ready := by
  have hnone : c.outstanding p.emitted j = [] := by
    rw [List.eq_nil_iff_forall_not_mem]
    intro k hk
    obtain ⟨hjk, hnew⟩ := Constraints.mem_outstanding.mp hk
    exact hnew (hwaits k hjk)
  have hzero : p.waiting.get j = 0 := by
    rw [h.waiting j, hnone]
    rfl
  exact (h.mem_ready j).mpr ⟨hzero, hj⟩

namespace Constraints

/-- **In every round the emission has taken the first each time.** Induction on the rounds: what is
ready is rising, and holds all that could be emitted. -/
theorem takesFirst_rounds {c : Constraints n} (hc : c.Matched) (count : Nat) :
    TakesFirst c.WaitsFor (c.rounds count).emitted := by
  induction count with
  | zero => exact .nil
  | succ count ih =>
    have hcounted := counted_rounds hc count
    show TakesFirst c.WaitsFor ((c.rounds count).step c).emitted
    cases hready : (c.rounds count).ready with
    | nil =>
      rw [Progress.step, hready]
      exact ih
    | cons i ready =>
      rw [Progress.emitted_step hready]
      apply ih.snoc
      intro j hj hwaits
      -- whoever could be emitted is ready, and the first of those rising positions is taken
      have hmem : j ∈ i :: ready := hready ▸ hcounted.mem_ready_of_waitsFor hj hwaits
      have hrising := hcounted.ready_rising
      rw [hready, List.pairwise_cons] at hrising
      rcases List.mem_cons.mp hmem with rfl | hmem
      · exact le_refl j
      · exact le_of_lt (hrising.1 j hmem)

end Constraints

/-! ## §4 — stable orders -/

/-- An order that is safe at start-up and departs from the list no more than it has to. -/
structure StableOrder (descriptors : List Descriptor)
    (ordered blocked : List (Fin descriptors.length)) : Prop
    extends StartUpOrder descriptors ordered blocked where
  /-- Lexicographically, no arrangement of the same positions that puts every singleton after what
  it requires is less. -/
  least : ∀ other : List (Fin descriptors.length), other.Perm ordered →
    ComesAfter (Requires descriptors) other → ordered ≤ other
  /-- What is not a singleton stays in the order of the list. -/
  lazyRising : (ordered ++ blocked).Pairwise fun i j =>
    ¬ IsSingleton descriptors i → ¬ IsSingleton descriptors j → i < j

variable {descriptors : List Descriptor} {ordered blocked : List (Fin descriptors.length)}

/-- There is only one stable order. -/
theorem StableOrder.unique {ordered' blocked' : List (Fin descriptors.length)}
    (h : StableOrder descriptors ordered blocked)
    (h' : StableOrder descriptors ordered' blocked') :
    ordered = ordered' ∧ blocked = blocked' := by
  have hblocked : blocked.Perm blocked' := by
    rw [List.perm_ext_iff_of_nodup (h.blocked_rising.imp ne_of_lt)
      (h'.blocked_rising.imp ne_of_lt)]
    intro i
    rw [h.mem_blocked_iff, h'.mem_blocked_iff]
  -- both are rising, so they agree as soon as they have the same members
  obtain rfl : blocked = blocked' :=
    hblocked.eq_of_pairwise (fun _ _ _ _ hab hba => absurd hab hba.asymm) h.blocked_rising
      h'.blocked_rising
  have hordered : ordered'.Perm ordered :=
    (List.perm_append_right_iff blocked).mp (h'.perm.trans h.perm.symm)
  have hle : ordered ≤ ordered' := h.least ordered' hordered h'.comesAfter
  have hge : ordered' ≤ ordered := h'.least ordered hordered.symm h.comesAfter
  exact ⟨le_antisymm hle hge, rfl⟩

/-- An order that leaves everything where it is is stable, if it is safe at all. -/
theorem StartUpOrder.stableOrder_of_rising (h : StartUpOrder descriptors ordered blocked)
    (hrising : (ordered ++ blocked).Pairwise (· < ·)) :
    StableOrder descriptors ordered blocked where
  toStartUpOrder := h
  least := fun _ hperm _ => le_of_rising (List.pairwise_append.mp hrising).1 hperm
  lazyRising := hrising.imp fun hlt _ _ => hlt

/-- **The emission gives the stable order.** -/
theorem stableOrder_emission (descriptors : List Descriptor) :
    StableOrder descriptors (constraints descriptors).finish.emitted
      (constraints descriptors).finish.blocked := by
  have hmatched := matched_constraints descriptors
  have hnodup := (Constraints.counted_finish hmatched).emitted_nodup
  have hfirst : TakesFirst (Requires descriptors) (constraints descriptors).finish.emitted := by
    rw [← waitsFor_constraints]
    exact Constraints.takesFirst_rounds hmatched _
  refine ⟨startUpOrder_emission descriptors, ?_, ?_⟩
  · intro other hperm hother
    exact hfirst.le hnodup hperm hother
  · rw [List.pairwise_append]
    refine ⟨?_, ?_, ?_⟩
    · -- what is not a singleton requires nothing
      refine (hfirst.lt_of_free hnodup).imp fun hlt _ hj => ?_
      exact hlt fun _ hrequires => hj hrequires.isSingleton
    · exact (Constraints.blocked_rising _).imp fun hlt _ _ => hlt
    · intro i _ j hj _ hlazy
      exact absurd (mem_blocked_constraints_iff.mp hj).1 hlazy

/-- A list of descriptors is put into its stable order, whichever way that is given. -/
theorem order_descriptors_of_stableOrder (h : StableOrder descriptors ordered blocked)
    (locate : TypeName → Option Location) :
    (order descriptors .dependencyOrder locate).descriptors =
      (ordered ++ blocked).map descriptors.get := by
  obtain ⟨hordered, hblocked⟩ := h.unique (stableOrder_emission descriptors)
  rw [order_dependencyOrder_descriptors, hordered, hblocked]

/-- A list in which every singleton comes after what it requires has nothing to be blocked. -/
theorem startUpOrder_finRange (h : ∀ i j, Requires descriptors i j → j < i) :
    StartUpOrder descriptors (List.finRange descriptors.length) [] := by
  have hafter : ComesAfter (Requires descriptors) (List.finRange descriptors.length) :=
    comesAfter_finRange h
  refine ⟨by rw [List.append_nil], hafter, ?_, .nil⟩
  intro i
  refine ⟨fun hi => absurd hi List.not_mem_nil, ?_⟩
  rintro ⟨-, k, -, -, hcycle⟩
  exact absurd hcycle (hafter.not_transGen_self (List.nodup_finRange _) (List.mem_finRange k))

/-- **The order is stable.** The registrations are put into the least of all arrangements that are
safe at start-up, and what is not a singleton keeps its order. So a list in which every singleton
comes after all that it requires is left as it is, and nothing is reported. -/
theorem order_stable (descriptors : List Descriptor) (locate : TypeName → Option Location) :
    (∃ ordered blocked, StableOrder descriptors ordered blocked ∧
      (order descriptors .dependencyOrder locate).descriptors =
        (ordered ++ blocked).map descriptors.get) ∧
    ((∀ i j, Requires descriptors i j → j < i) →
      order descriptors .dependencyOrder locate = ⟨descriptors, []⟩) := by
  refine ⟨⟨_, _, stableOrder_emission descriptors,
    order_dependencyOrder_descriptors descriptors locate⟩, ?_⟩
  intro hbefore
  have hstable : StableOrder descriptors (List.finRange descriptors.length) [] := by
    apply (startUpOrder_finRange hbefore).stableOrder_of_rising
    rw [List.append_nil]
    exact List.pairwise_lt_finRange _
  -- the list as it stands is a stable order, and there is only one
  have hdescriptors : (order descriptors .dependencyOrder locate).descriptors = descriptors := by
    rw [order_descriptors_of_stableOrder hstable, List.append_nil, List.map_get_finRange]
  have hdiagnostics : (order descriptors .dependencyOrder locate).diagnostics = [] := by
    -- the emission blocks what this order blocks, which is nothing
    have hblocked := ((stableOrder_emission descriptors).unique hstable).2
    have hchains : chains descriptors = [] := by
      by_contra hne
      exact chains_ne_nil_iff.mp hne hblocked
    rw [order_dependencyOrder_diagnostics, hchains, List.map_nil]
  calc order descriptors .dependencyOrder locate
      = ⟨(order descriptors .dependencyOrder locate).descriptors,
          (order descriptors .dependencyOrder locate).diagnostics⟩ := rfl
    _ = ⟨descriptors, []⟩ := by rw [hdescriptors, hdiagnostics]

/-- A singleton that asks for a scoped service, which asks for a transient one, after both of
them. -/
theorem order_stable_in_order :
    let clock : Descriptor := ⟨⟨"Clock"⟩, ⟨"IClock"⟩, .transient, []⟩
    let repo : Descriptor := ⟨⟨"Repo"⟩, ⟨"IRepo"⟩, .perScope, [⟨"IClock"⟩]⟩
    let app : Descriptor := ⟨⟨"App"⟩, ⟨"IApp"⟩, .singleton, [⟨"IRepo"⟩]⟩
    (∀ i j, Requires [clock, repo, app] i j → j < i) ∧
      order [clock, repo, app] .dependencyOrder (fun _ => none) = ⟨[clock, repo, app], []⟩ := by
  intro clock repo app
  have hasks : ∀ i j, Asks [clock, repo, app] i j → j < i := by
    unfold Asks
    decide
  have hbefore : ∀ i j, Requires [clock, repo, app] i j → j < i := by
    intro i j h
    induction h with
    | asked _ asks => exact hasks _ _ asks
    | through _ _ asks ih => exact (hasks _ _ asks).trans ih
  exact ⟨hbefore, (order_stable _ _).2 hbefore⟩

end Registrar.Ordering
