import Mathlib.Data.List.Chain
import Mathlib.Logic.Relation
import Registrar.Ordering
import Registrar.Proofs.Ordering.Requires

/-!
# The search for a cycle

The search for a way from a position back to itself finds one if there is one, and shows it as a
walk along the needs. Two facts carry this. The log leads from whoever is in it back to the start
(`DiscoveryLog.Grounded`), so a way that is found can be traced. And whoever was discovered is
either still in the queue or done with (`Searching`), so a search that runs dry has seen all that
the start leads to.

* `Walk` : lists of positions in which each one is related to the next.
* `DiscoveryLog.Grounded.trace` : tracing always gives a walk.
* `Searching.next` : what one step of the search keeps.
* `Graph.shortestCycle_eq_some`, `Graph.shortestCycle_eq_none_iff` : what the search finds, and when
  it finds nothing.
-/

namespace Registrar.Ordering

open Relation

variable {n : Nat}

/-! ## §1 — walks -/

/-- A list of positions that leads from the first one to the last one, each related to the next. -/
inductive Walk (r : Fin n → Fin n → Prop) : Fin n → Fin n → List (Fin n) → Prop where
  | stay (i : Fin n) : Walk r i i [i]
  | step {i j k : Fin n} {walk : List (Fin n)} (first : r i j) (rest : Walk r j k walk) :
      Walk r i k (i :: walk)

namespace Walk

variable {r : Fin n → Fin n → Prop} {i j : Fin n} {walk : List (Fin n)}

theorem exists_cons (h : Walk r i j walk) : ∃ rest, walk = i :: rest := by
  cases h with
  | stay => exact ⟨[], rfl⟩
  | step _ _ => exact ⟨_, rfl⟩

theorem head? (h : Walk r i j walk) : walk.head? = some i := by
  obtain ⟨rest, rfl⟩ := h.exists_cons
  rfl

/-- A walk leads to its last position. -/
theorem getLast? (h : Walk r i j walk) : walk.getLast? = some j := by
  induction h with
  | stay => rfl
  | step _ hrest ih =>
    obtain ⟨rest, rfl⟩ := hrest.exists_cons
    rw [List.getLast?_cons_cons]
    exact ih

theorem isChain (h : Walk r i j walk) : walk.IsChain r := by
  induction h with
  | stay => exact .singleton _
  | step hfirst hrest ih =>
    obtain ⟨rest, rfl⟩ := hrest.exists_cons
    exact .cons_cons hfirst ih

theorem mono {r' : Fin n → Fin n → Prop} (h : Walk r i j walk)
    (hr : ∀ a b, r a b → r' a b) : Walk r' i j walk := by
  induction h with
  | stay i => exact .stay i
  | step first _ ih => exact .step (hr _ _ first) ih

theorem snoc {k : Fin n} (h : Walk r i j walk) (last : r j k) : Walk r i k (walk ++ [k]) := by
  induction h with
  | stay i => exact .step last (.stay k)
  | step first _ ih => exact .step first (ih last)

/-- A list whose positions are related one by one is a walk between its ends. -/
theorem of_isChain (h : walk.IsChain r) (hhead : walk.head? = some i)
    (hlast : walk.getLast? = some j) : Walk r i j walk := by
  induction walk generalizing i with
  | nil => exact absurd hhead (by simp)
  | cons a rest ih =>
    obtain rfl := Option.some.inj hhead
    -- a single position is both ends at once
    cases rest with
    | nil =>
      obtain rfl := Option.some.inj hlast
      exact .stay a
    | cons b rest =>
      obtain ⟨hfirst, hrest⟩ := List.isChain_cons_cons.mp h
      rw [List.getLast?_cons_cons] at hlast
      exact .step hfirst (ih hrest rfl hlast)

theorem reflTransGen (h : Walk r i j walk) : ReflTransGen r i j := by
  induction h with
  | stay => exact .refl
  | step hfirst _ ih => exact .head hfirst ih

/-- A walk that goes on comes to each of its members, and from each of them to its end. -/
theorem reflTransGen_of_mem {k : Fin n} (h : Walk r i j walk) (hk : k ∈ walk) :
    ReflTransGen r i k ∧ ReflTransGen r k j := by
  induction h with
  | stay =>
    obtain rfl := List.mem_singleton.mp hk
    exact ⟨.refl, .refl⟩
  | step hfirst hrest ih =>
    rcases List.mem_cons.mp hk with rfl | hk
    · exact ⟨.refl, .head hfirst hrest.reflTransGen⟩
    · exact ⟨.head hfirst (ih hk).1, (ih hk).2⟩

theorem transGen (h : Walk r i j walk) (hlength : 2 ≤ walk.length) : TransGen r i j := by
  cases h with
  | stay => simp at hlength
  | step hfirst hrest => exact .head' hfirst hrest.reflTransGen

theorem transGen_self_of_mem {k : Fin n} (h : Walk r i i walk) (hlength : 2 ≤ walk.length)
    (hk : k ∈ walk) : TransGen r k k := by
  obtain ⟨hik, hki⟩ := h.reflTransGen_of_mem hk
  exact TransGen.trans_left (TransGen.trans_right hki (h.transGen hlength)) hik

end Walk

/-! ## §2 — the log -/

namespace DiscoveryLog

/-- Each entry of a log was discovered from the start, or from someone discovered earlier, as a
need of theirs. -/
def Grounded (g : Graph n) (start : Fin n) : DiscoveryLog n → Prop
  | [] => True
  | (found, source) :: earlier =>
    g.Needs source found ∧ (source = start ∨ source ∈ earlier.map Prod.fst) ∧
      Grounded g start earlier

namespace Grounded

variable {g : Graph n} {start source : Fin n} {log : DiscoveryLog n}

/-- The needs of someone who is in the log can be logged. -/
theorem append (h : Grounded g start log) (hsource : source = start ∨ source ∈ log.map Prod.fst)
    (found : List (Fin n)) (hfound : ∀ i ∈ found, g.Needs source i) :
    Grounded g start (found.map (·, source) ++ log) := by
  induction found with
  | nil => exact h
  | cons i found ih =>
    refine ⟨hfound i List.mem_cons_self, ?_, ih fun j hj => hfound j (List.mem_cons_of_mem _ hj)⟩
    -- the source was in the log before, and the log only grows at the front
    refine hsource.imp_right fun hmem => ?_
    show source ∈ (found.map (·, source) ++ log).map Prod.fst
    rw [List.map_append]
    exact List.mem_append_right _ hmem

/-- Each entry of the log tells of a need. -/
theorem needs_of_mem {i j : Fin n} (h : Grounded g start log) (hmem : (j, i) ∈ log) : g.Needs i j := by
  induction log with
  | nil => exact absurd hmem List.not_mem_nil
  | cons entry earlier ih =>
    obtain ⟨found, source⟩ := entry
    obtain ⟨hneeds, -, hearlier⟩ := h
    rcases List.mem_cons.mp hmem with heq | hmem
    · obtain ⟨rfl, rfl⟩ := Prod.mk.inj heq
      exact hneeds
    · exact ih hearlier hmem

/-- **Tracing never fails**, and puts a walk from the start in front of what it is given. Induction
on the log: the cursor is found in what is left of it, until it is the start. -/
theorem trace (h : Grounded g start log) {cursor stop : Fin n} {chain : List (Fin n)}
    (hcursor : cursor = start ∨ cursor ∈ log.map Prod.fst)
    (hchain : Walk g.Needs cursor stop (cursor :: chain)) :
    ∃ walk, log.trace start cursor chain = some walk ∧ Walk g.Needs start stop walk ∧
      chain.length < walk.length := by
  induction log generalizing cursor chain with
  | nil =>
    -- an empty log has nobody in it, so the cursor is the start
    obtain rfl : cursor = start := hcursor.resolve_right List.not_mem_nil
    refine ⟨cursor :: chain, ?_, hchain, Nat.lt_succ_self _⟩
    rw [DiscoveryLog.trace, if_pos rfl]
  | cons entry earlier ih =>
    obtain ⟨found, source⟩ := entry
    obtain ⟨hneeds, hsource, hearlier⟩ := h
    unfold DiscoveryLog.trace
    by_cases hstart : cursor = start
    · subst hstart
      refine ⟨cursor :: chain, ?_, hchain, Nat.lt_succ_self _⟩
      rw [if_pos rfl]
    · rw [if_neg hstart]
      by_cases hfound : found = cursor
      · -- go on from whom the cursor was discovered from, who was logged earlier
        subst hfound
        rw [if_pos rfl]
        obtain ⟨walk, htrace, hwalk, hlength⟩ := ih hearlier hsource (.step hneeds hchain)
        exact ⟨walk, htrace, hwalk, Nat.lt_of_succ_lt hlength⟩
      · rw [if_neg hfound]
        refine ih hearlier ?_ hchain
        refine Or.inr ((List.mem_cons.mp (hcursor.resolve_left hstart)).resolve_left ?_)
        exact Ne.symm hfound

end Grounded

end DiscoveryLog

/-! ## §3 — the search -/

theorem Graph.mem_newNeeds_iff {g : Graph n} {seen : Marks n} {i j : Fin n} :
    j ∈ g.newNeeds seen i ↔ g.Needs i j ∧ j ∉ seen := by
  rw [Graph.newNeeds, List.mem_filter, decide_eq_true_iff]
  rfl

/-- What holds of a search for a way back to `start`: the log shows how everyone was discovered,
the queue holds only such positions, and those that have left the queue are done with. -/
structure Searching (g : Graph n) (start : Fin n) (seen : Marks n) (log : DiscoveryLog n)
    (queue : List (Fin n)) : Prop where
  grounded : log.Grounded g start
  logged : ∀ i ∈ seen, i ∈ log.map Prod.fst
  queued : ∀ i ∈ queue, i = start ∨ i ∈ seen
  done : ∀ i, i = start ∨ i ∈ seen → i ∉ queue →
    ¬ g.Needs i start ∧ ∀ j, g.Needs i j → j ∈ seen

namespace Searching

variable {g : Graph n} {start current : Fin n} {seen : Marks n} {log : DiscoveryLog n}
  {queue : List (Fin n)}

/-- At the start only the start is queued, and nothing is seen or logged. -/
theorem init (g : Graph n) (start : Fin n) : Searching g start .none [] [start] := by
  refine ⟨trivial, ?_, ?_, ?_⟩
  · intro i hi
    exact absurd hi Marks.not_mem_none
  · intro i hi
    exact Or.inl (List.mem_singleton.mp hi)
  · intro i hi hnot
    rcases hi with rfl | hi
    · exact absurd List.mem_cons_self hnot
    · exact absurd hi Marks.not_mem_none

/-- Whoever is queued is the start or in the log, so the way to it can be traced. -/
theorem logged_of_queued {i : Fin n} (h : Searching g start seen log queue) (hi : i ∈ queue) :
    i = start ∨ i ∈ log.map Prod.fst :=
  (h.queued i hi).imp_right (h.logged i)

/-- **A step of the search**: the first of the queue, if it does not need the start, is done with
when its new needs are seen, logged and queued. -/
theorem next (h : Searching g start seen log (current :: queue))
    (hcurrent : ¬ g.Needs current start) :
    Searching g start (seen.addAll (g.newNeeds seen current))
      ((g.newNeeds seen current).reverse.map (·, current) ++ log)
      (queue ++ g.newNeeds seen current) := by
  refine ⟨?_, ?_, ?_, ?_⟩
  · refine h.grounded.append (h.logged_of_queued List.mem_cons_self) _ ?_
    intro i hi
    exact (List.mem_filter.mp (List.mem_reverse.mp hi)).1
  · intro i hi
    rw [List.map_append, List.mem_append]
    rcases Marks.mem_addAll_iff.mp hi with hi | hi
    · refine Or.inl (List.mem_map.mpr ⟨(i, current), ?_, rfl⟩)
      exact List.mem_map.mpr ⟨i, List.mem_reverse.mpr hi, rfl⟩
    · exact Or.inr (h.logged i hi)
  · intro i hi
    rw [Marks.mem_addAll_iff]
    rcases List.mem_append.mp hi with hi | hi
    · exact (h.queued i (List.mem_cons_of_mem _ hi)).imp_right Or.inr
    · exact Or.inr (Or.inl hi)
  · intro i hi hnot
    rw [List.mem_append, not_or] at hnot
    have hold : i = start ∨ i ∈ seen := by
      rw [Marks.mem_addAll_iff] at hi
      exact hi.imp_right fun hseen => hseen.resolve_left hnot.2
    by_cases hcur : i = current
    · -- the first of the queue leaves it now: its needs are all seen
      subst hcur
      refine ⟨hcurrent, ?_⟩
      intro j hij
      rw [Marks.mem_addAll_iff]
      by_cases hj : j ∈ seen
      · exact Or.inr hj
      · exact Or.inl (List.mem_filter.mpr ⟨hij, by simpa using hj⟩)
    · obtain ⟨hback, hneeds⟩ := h.done i hold (by simp [hcur, hnot.1])
      exact ⟨hback, fun j hij => Marks.mem_addAll_iff.mpr (Or.inr (hneeds j hij))⟩

/-- When the queue is empty there is no way back. -/
theorem not_transGen (h : Searching g start seen log []) : ¬ TransGen g.Needs start start := by
  -- all that the start leads to has been seen
  have hclosed : ∀ j, ReflTransGen g.Needs start j → j = start ∨ j ∈ seen := by
    intro j hj
    induction hj with
    | refl => exact Or.inl rfl
    | tail _ hab ih => exact Or.inr ((h.done _ ih List.not_mem_nil).2 _ hab)
  intro hcycle
  obtain ⟨last, hlast, hback⟩ := TransGen.tail'_iff.mp hcycle
  exact (h.done last (hclosed last hlast) List.not_mem_nil).1 hback

end Searching

namespace Graph

/-- What a search that is under way comes to. Induction along the search, with `Searching` kept in
each step. -/
theorem search_spec (g : Graph n) (start : Fin n) (seen : Marks n) (log : DiscoveryLog n)
    (queue : List (Fin n)) (h : Searching g start seen log queue) :
    (∃ walk, g.search start seen log queue = some walk ∧ Walk g.Needs start start walk ∧
      2 ≤ walk.length) ∨
    g.search start seen log queue = none ∧ ¬ TransGen g.Needs start start := by
  fun_induction search g start seen log queue with
  | case1 seen log => exact Or.inr ⟨rfl, h.not_transGen⟩
  | case2 seen log current queue hback =>
    obtain ⟨walk, htrace, hwalk, hlength⟩ :=
      h.grounded.trace (h.logged_of_queued List.mem_cons_self) (.step hback (.stay start))
    -- tracing gives the way to the position that needs the start, and the step back closes it
    exact Or.inl ⟨walk, htrace, hwalk, hlength⟩
  | case3 seen log current queue hback ih => exact ih (h.next hback)

/-- **What the search finds is a walk back to the start.** -/
theorem shortestCycle_eq_some {g : Graph n} {start : Fin n} {walk : List (Fin n)}
    (h : g.shortestCycle start = some walk) :
    Walk g.Needs start start walk ∧ 2 ≤ walk.length := by
  rcases g.search_spec start .none [] [start] (.init g start) with ⟨found, hfound, hwalk⟩ | ⟨hnone, -⟩
  · rw [shortestCycle, hfound] at h
    obtain rfl := Option.some.inj h
    exact hwalk
  · rw [shortestCycle, hnone] at h
    exact absurd h (by simp)

/-- **The search finds nothing only if there is no way back to the start.** -/
theorem shortestCycle_eq_none_iff {g : Graph n} {start : Fin n} :
    g.shortestCycle start = none ↔ ¬ TransGen g.Needs start start := by
  rcases g.search_spec start .none [] [start] (.init g start) with
    ⟨found, hfound, hwalk, hlength⟩ | ⟨hnone, hcycle⟩
  · rw [shortestCycle, hfound]
    simp [hwalk.transGen hlength]
  · rw [shortestCycle, hnone]
    simp [hcycle]

end Graph

end Registrar.Ordering
