import Mathlib.Data.Fintype.EquivFin
import Mathlib.Data.List.Nodup
import Registrar.Proofs.Lists
import Registrar.Proofs.Ordering.Search

/-!
# The shortest way back

The search goes on from the positions in the order in which it discovers them, so it discovers them
level by level: first what the start needs, then what that needs, and so on. The first position that
needs the start again is therefore on the lowest level that such a position can be on, and the way
that the log shows to it has one step for each level. So no way back to the start is shorter, and a
way that is as short as possible shows nobody twice.

* `ClosedWalk`, `ShortestCycle` : ways back to the start.
* `ClosedWalk.nodup_of_shortest` : a shortest one repeats nothing.
* `DiscoveryLog.trace_eq_some` : tracing follows the log, entry by entry.
* `Levelled` : the invariant of the levels; `Levelled.next` says that a step of the search keeps it.
* `Levelled.le_of_closedWalk` : what it says of ways back.
* `Visits` : the states that a search goes through.
* `shortestCycle_exact` : the search finds a shortest way back if there is one.
-/

namespace Registrar.Ordering

open Relation

variable {n : Nat}

/-! ## §1 — closed walks -/

/-- A walk of at least one step that comes back to where it starts. -/
def ClosedWalk (r : Fin n → Fin n → Prop) (i : Fin n) (walk : List (Fin n)) : Prop :=
  Walk r i i walk ∧ 2 ≤ walk.length

/-- A closed walk that is as short as possible; but for the end, it shows nobody twice. -/
structure ShortestCycle (r : Fin n → Fin n → Prop) (start : Fin n) (chain : List (Fin n)) :
    Prop where
  closed : ClosedWalk r start chain
  shortest : ∀ walk, ClosedWalk r start walk → chain.length ≤ walk.length
  nodup : chain.dropLast.Nodup

/-- A closed walk is a chain of at least one position that comes back to the first. -/
theorem closedWalk_append_iff {r : Fin n → Fin n → Prop} {i : Fin n} {way : List (Fin n)} :
    ClosedWalk r i (way ++ [i]) ↔ (way ++ [i]).IsChain r ∧ way.head? = some i := by
  constructor
  · rintro ⟨hwalk, hlength⟩
    refine ⟨hwalk.isChain, ?_⟩
    have hhead := hwalk.head?
    cases way with
    | nil => exact absurd hlength (by simp)
    | cons a way => exact hhead
  · rintro ⟨hchain, hhead⟩
    cases way with
    | nil => exact absurd hhead (by simp)
    | cons a way =>
      refine ⟨Walk.of_isChain hchain hhead List.getLast?_concat, ?_⟩
      simp only [List.cons_append, List.length_cons, List.length_append]
      omega

/-- **A shortest closed walk shows nobody twice**: what lies between two places of somebody could be
left out. -/
theorem ClosedWalk.nodup_of_shortest {r : Fin n → Fin n → Prop} {i : Fin n} {way : List (Fin n)}
    (h : ClosedWalk r i (way ++ [i]))
    (hshortest : ∀ walk, ClosedWalk r i walk → (way ++ [i]).length ≤ walk.length) : way.Nodup := by
  by_contra hdup
  obtain ⟨front, a, between, back, rfl⟩ := exists_split_of_not_nodup hdup
  obtain ⟨hchain, hhead⟩ := closedWalk_append_iff.mp h
  have hcut : ClosedWalk r i ((front ++ a :: back) ++ [i]) := by
    rw [closedWalk_append_iff]
    refine ⟨?_, ?_⟩
    · -- the chain up to the first place of `a`, and from its second place on
      simp only [List.append_assoc, List.cons_append] at hchain ⊢
      obtain ⟨hfront, hrest⟩ := List.isChain_split.mp hchain
      have hsplit : (a :: between ++ a :: (back ++ [i])).IsChain r := hrest
      exact List.isChain_split.mpr ⟨hfront, (List.isChain_split.mp hsplit).2⟩
    · cases front with
      | nil => exact hhead
      | cons b front => exact hhead
  have hle := hshortest _ hcut
  simp only [List.length_append, List.length_cons] at hle
  omega

/-! ## §2 — the way that the log shows -/

namespace DiscoveryLog

variable {start cursor : Fin n} {log : DiscoveryLog n}

/-- **Tracing follows the log.** What it puts in front of the chain is a way from the start to the
cursor, on which each one is logged as discovered from the one before, and which is at the start
only once. -/
theorem trace_eq_some {chain walk : List (Fin n)} (h : log.trace start cursor chain = some walk) :
    ∃ way, walk = way ++ chain ∧ Walk (fun i j => (j, i) ∈ log) start cursor way ∧
      start ∉ way.tail := by
  induction log generalizing cursor chain with
  | nil =>
    rw [DiscoveryLog.trace] at h
    split at h
    · next hstart =>
      subst hstart
      exact ⟨[cursor], (Option.some.inj h).symm, .stay cursor, List.not_mem_nil⟩
    · exact absurd h (by simp)
  | cons entry earlier ih =>
    obtain ⟨found, source⟩ := entry
    have hmono : ∀ i j, (j, i) ∈ earlier → (j, i) ∈ (found, source) :: earlier :=
      fun _ _ hmem => List.mem_cons_of_mem _ hmem
    rw [DiscoveryLog.trace] at h
    split at h
    · next hstart =>
      subst hstart
      exact ⟨[cursor], (Option.some.inj h).symm, .stay cursor, List.not_mem_nil⟩
    · next hstart =>
      split at h
      · -- the way to the source, and from there to the cursor
        next hfound =>
        subst hfound
        obtain ⟨way, hwalk, hway, htail⟩ := ih h
        refine ⟨way ++ [found], by simp [hwalk], ?_, ?_⟩
        · exact (hway.mono hmono).snoc List.mem_cons_self
        · obtain ⟨rest, rfl⟩ := hway.exists_cons
          show start ∉ rest ++ [found]
          rw [List.mem_append, List.mem_singleton, not_or]
          exact ⟨htail, Ne.symm hstart⟩
      · obtain ⟨way, hwalk, hway, htail⟩ := ih h
        exact ⟨way, hwalk, hway.mono hmono, htail⟩

end DiscoveryLog

/-- On a way on which each one is one level above the one before, the level of the last one says how
long the way is. -/
theorem Walk.length_of_levels {level : Fin n → Nat} {i j : Fin n} {way : List (Fin n)}
    (h : Walk (fun a b => level b = level a + 1) i j way) :
    way.length + level i = level j + 1 := by
  induction h with
  | stay i => exact Nat.add_comm 1 _
  | step first _ ih =>
    rw [List.length_cons]
    omega

/-! ## §3 — levels -/

/-- What holds of the entries of a log: they tell of different positions, none of which is the start,
and all of them are marked as seen. -/
structure Logged (start : Fin n) (seen : Marks n) (log : DiscoveryLog n) : Prop where
  seen_of_mem : ∀ entry ∈ log, entry.1 ∈ seen ∧ (entry.2 = start ∨ entry.2 ∈ seen)
  nodup : (start :: log.map Prod.fst).Nodup

/-- What holds of the levels of a search. The queue goes from one level to the next one at most, and
nobody is discovered more than one level above somebody in it, or above somebody who has left it and
needs them. -/
structure Levelled (g : Graph n) (start : Fin n) (level : Fin n → Nat) (seen : Marks n)
    (log : DiscoveryLog n) (queue : List (Fin n)) : Prop where
  start_eq : level start = 0
  logged : ∀ entry ∈ log, level entry.1 = level entry.2 + 1
  rising : queue.Pairwise fun i j => level i ≤ level j
  span : ∀ i ∈ queue, ∀ j, j = start ∨ j ∈ seen → level j ≤ level i + 1
  done : ∀ i, i = start ∨ i ∈ seen → i ∉ queue → ∀ j, g.Needs i j → level j ≤ level i + 1

variable {g : Graph n} {start current i : Fin n} {seen : Marks n} {log : DiscoveryLog n}
  {queue : List (Fin n)}

theorem discovered_addAll_iff {new : List (Fin n)} :
    (i = start ∨ i ∈ seen.addAll new) ↔ (i = start ∨ i ∈ seen) ∨ i ∈ new := by
  rw [Marks.mem_addAll_iff]
  tauto

/-- What is discovered already is not new. -/
theorem not_mem_newNeeds (hback : ¬ g.Needs current start) (hi : i = start ∨ i ∈ seen) :
    i ∉ g.newNeeds seen current := by
  intro hmem
  obtain ⟨hneeds, hunseen⟩ := Graph.mem_newNeeds_iff.mp hmem
  rcases hi with rfl | hseen
  · exact hback hneeds
  · exact hunseen hseen

namespace Logged

theorem init (start : Fin n) : Logged start .none [] :=
  ⟨fun _ h => absurd h List.not_mem_nil, List.nodup_cons.mpr ⟨List.not_mem_nil, List.nodup_nil⟩⟩

/-- A step of the search logs what is new, which nobody has logged before. -/
theorem next (h : Logged start seen log) (hneeds : (g.needs.get current).Nodup)
    (hcurrent : current = start ∨ current ∈ seen) (hback : ¬ g.Needs current start) :
    Logged start (seen.addAll (g.newNeeds seen current))
      ((g.newNeeds seen current).reverse.map (·, current) ++ log) := by
  refine ⟨?_, ?_⟩
  · intro entry hentry
    rcases List.mem_append.mp hentry with hentry | hentry
    · obtain ⟨i, hi, rfl⟩ := List.mem_map.mp hentry
      exact ⟨Marks.mem_addAll_iff.mpr (Or.inl (List.mem_reverse.mp hi)),
        discovered_addAll_iff.mpr (Or.inl hcurrent)⟩
    · obtain ⟨hfound, hsource⟩ := h.seen_of_mem entry hentry
      exact ⟨Marks.mem_addAll_iff.mpr (Or.inr hfound), discovered_addAll_iff.mpr (Or.inl hsource)⟩
  · have hfirsts : ((g.newNeeds seen current).reverse.map (·, current) ++ log).map Prod.fst =
        (g.newNeeds seen current).reverse ++ log.map Prod.fst := by
      rw [List.map_append, List.map_map]
      exact congrArg (· ++ log.map Prod.fst) (List.map_id _)
    obtain ⟨hnot, hold⟩ := List.nodup_cons.mp h.nodup
    rw [hfirsts, List.nodup_cons, List.mem_append, List.mem_reverse, List.nodup_append,
      List.nodup_reverse]
    refine ⟨not_or.mpr ⟨not_mem_newNeeds hback (Or.inl rfl), hnot⟩, hneeds.filter _, hold, ?_⟩
    -- what is logged already has been seen, so it is not new
    rintro a ha b hb rfl
    obtain ⟨entry, hentry, rfl⟩ := List.mem_map.mp hb
    exact not_mem_newNeeds hback (Or.inr (h.seen_of_mem entry hentry).1) (List.mem_reverse.mp ha)

/-- The log tells of everyone in it whom they were discovered from. -/
theorem lookup_of_mem {j : Fin n} (h : Logged start seen log) (hmem : (j, i) ∈ log) :
    log.lookup j = some i := by
  obtain ⟨later, earlier, rfl⟩ := List.append_of_mem hmem
  refine List.lookup_eq_some_iff.mpr ⟨later, earlier, rfl, ?_⟩
  intro entry hentry
  -- no later entry tells of `j` again
  have hnodup := (List.nodup_cons.mp h.nodup).2
  rw [List.map_append, List.nodup_append] at hnodup
  have hne := hnodup.2.2 entry.1 (List.mem_map_of_mem hentry) j List.mem_cons_self
  simpa using Ne.symm hne

end Logged

/-- The levels after a step of the search: whatever is new is one above the position that needs it,
and nothing else changes. -/
def raised (level : Fin n → Nat) (current : Fin n) (new : List (Fin n)) (i : Fin n) : Nat :=
  if new.contains i then level current + 1 else level i

namespace Levelled

variable {level : Fin n → Nat}

/-- Before the search everyone is on the lowest level. -/
theorem init (g : Graph n) (start : Fin n) : Levelled g start (fun _ => 0) .none [] [start] := by
  refine ⟨rfl, ?_, List.pairwise_singleton _ _, ?_, ?_⟩
  · intro entry hentry
    exact absurd hentry List.not_mem_nil
  · intro i _ j _
    exact Nat.zero_le _
  · intro i _ _ j _
    exact Nat.zero_le _

theorem raised_of_new (hi : i ∈ g.newNeeds seen current) :
    raised level current (g.newNeeds seen current) i = level current + 1 :=
  if_pos (List.contains_iff_mem.mpr hi)

theorem raised_of_discovered (hback : ¬ g.Needs current start) (hi : i = start ∨ i ∈ seen) :
    raised level current (g.newNeeds seen current) i = level i :=
  if_neg (mt List.contains_iff_mem.mp (not_mem_newNeeds hback hi))

/-- Nobody is discovered above the new level. -/
theorem raised_le (h : Levelled g start level seen log (current :: queue))
    (hback : ¬ g.Needs current start)
    (hi : i = start ∨ i ∈ seen.addAll (g.newNeeds seen current)) :
    raised level current (g.newNeeds seen current) i ≤ level current + 1 := by
  rcases discovered_addAll_iff.mp hi with hi | hi
  · rw [raised_of_discovered hback hi]
    exact h.span current List.mem_cons_self i hi
  · rw [raised_of_new hi]

/-- Nobody who is queued after the step is below the position that left the queue. -/
theorem le_raised (h : Levelled g start level seen log (current :: queue))
    (hsearch : Searching g start seen log (current :: queue)) (hback : ¬ g.Needs current start)
    (hi : i ∈ queue ++ g.newNeeds seen current) :
    level current ≤ raised level current (g.newNeeds seen current) i := by
  rcases List.mem_append.mp hi with hi | hi
  · rw [raised_of_discovered hback (hsearch.queued i (List.mem_cons_of_mem _ hi))]
    exact (List.pairwise_cons.mp h.rising).1 i hi
  · rw [raised_of_new hi]
    omega

/-- The queue still rises: what is new is put at its end, one level above its old first. -/
theorem rising_next (h : Levelled g start level seen log (current :: queue))
    (hsearch : Searching g start seen log (current :: queue)) (hback : ¬ g.Needs current start) :
    (queue ++ g.newNeeds seen current).Pairwise fun i j =>
      raised level current (g.newNeeds seen current) i ≤
        raised level current (g.newNeeds seen current) j := by
  have hqueued : ∀ i ∈ queue, i = start ∨ i ∈ seen := fun i hi =>
    hsearch.queued i (List.mem_cons_of_mem _ hi)
  rw [List.pairwise_append]
  refine ⟨?_, ?_, ?_⟩
  · refine (List.pairwise_cons.mp h.rising).2.imp_of_mem ?_
    intro i j hi hj hij
    rw [raised_of_discovered hback (hqueued i hi), raised_of_discovered hback (hqueued j hj)]
    exact hij
  · refine List.pairwise_of_forall_mem_list ?_
    intro i hi j hj
    rw [raised_of_new hi, raised_of_new hj]
  · intro i hi j hj
    rw [raised_of_discovered hback (hqueued i hi), raised_of_new hj]
    exact h.span current List.mem_cons_self i (hqueued i hi)

/-- Nobody needs anything that is more than one level above, once they have left the queue. -/
theorem done_next (h : Levelled g start level seen log (current :: queue))
    (hsearch : Searching g start seen log (current :: queue)) (hback : ¬ g.Needs current start)
    (hi : i = start ∨ i ∈ seen.addAll (g.newNeeds seen current))
    (hleft : i ∉ queue ++ g.newNeeds seen current) {j : Fin n} (hij : g.Needs i j) :
    raised level current (g.newNeeds seen current) j ≤
      raised level current (g.newNeeds seen current) i + 1 := by
  rw [List.mem_append, not_or] at hleft
  have hold := (discovered_addAll_iff.mp hi).resolve_right hleft.2
  rw [raised_of_discovered hback hold]
  by_cases hcurrent : i = current
  · -- the first of the queue leaves it: all that it needs is discovered now
    subst hcurrent
    refine h.raised_le hback (Or.inr (Marks.mem_addAll_iff.mpr ?_))
    by_cases hj : j ∈ seen
    · exact Or.inr hj
    · exact Or.inl (Graph.mem_newNeeds_iff.mpr ⟨hij, hj⟩)
  · have hgone : i ∉ current :: queue := by simp [hcurrent, hleft.1]
    rw [raised_of_discovered hback (Or.inr ((hsearch.done i hold hgone).2 j hij))]
    exact h.done i hold hgone j hij

/-- **A step of the search keeps the levels**: it discovers positions one level above the first of the
queue, and puts them behind all that are queued. -/
theorem next (h : Levelled g start level seen log (current :: queue))
    (hsearch : Searching g start seen log (current :: queue)) (hlogged : Logged start seen log)
    (hback : ¬ g.Needs current start) :
    Levelled g start (raised level current (g.newNeeds seen current))
      (seen.addAll (g.newNeeds seen current))
      ((g.newNeeds seen current).reverse.map (·, current) ++ log)
      (queue ++ g.newNeeds seen current) := by
  refine ⟨?_, ?_, h.rising_next hsearch hback, ?_, fun i hi hleft j hij =>
    h.done_next hsearch hback hi hleft hij⟩
  · rw [raised_of_discovered hback (Or.inl rfl)]
    exact h.start_eq
  · intro entry hentry
    rcases List.mem_append.mp hentry with hentry | hentry
    · obtain ⟨i, hi, rfl⟩ := List.mem_map.mp hentry
      rw [raised_of_new (List.mem_reverse.mp hi),
        raised_of_discovered hback (hsearch.queued _ List.mem_cons_self)]
    · obtain ⟨hfound, hsource⟩ := hlogged.seen_of_mem entry hentry
      rw [raised_of_discovered hback (Or.inr hfound), raised_of_discovered hback hsource]
      exact h.logged entry hentry
  · intro i hi j hj
    have hlow := h.le_raised hsearch hback hi
    have hhigh := h.raised_le hback hj
    omega

/-- What is left of a way back, seen from somebody who was discovered: it leads through the queue, so
it goes at least one step up from the first of the queue. Induction on the way. -/
theorem le_of_walk (h : Levelled g start level seen log (current :: queue))
    (hsearch : Searching g start seen log (current :: queue)) {walk : List (Fin n)}
    (hwalk : Walk g.Needs i start walk) (hlength : 2 ≤ walk.length) (hi : i = start ∨ i ∈ seen) :
    level current + 2 ≤ level i + walk.length := by
  induction hwalk with
  | stay => exact absurd hlength (by simp)
  | @step i j k walk first rest ih =>
    by_cases hqueue : i ∈ current :: queue
    · have hle : level current ≤ level i := by
        rcases List.mem_cons.mp hqueue with rfl | hmem
        · exact le_refl _
        · exact (List.pairwise_cons.mp h.rising).1 i hmem
      omega
    · -- whoever has left the queue does not need the start, so the way goes on
      obtain ⟨hnot, hneeds⟩ := hsearch.done i hi hqueue
      have hrest : 2 ≤ walk.length := by
        cases rest with
        | stay => exact absurd first hnot
        | step _ more =>
          obtain ⟨others, rfl⟩ := more.exists_cons
          simp
      have hmore := ih h hsearch hrest (Or.inr (hneeds j first))
      have hstep := h.done i hi hqueue j first
      rw [List.length_cons]
      omega

/-- **No way back is shorter** than the one that leads through the first of the queue. -/
theorem le_of_closedWalk (h : Levelled g start level seen log (current :: queue))
    (hsearch : Searching g start seen log (current :: queue)) {walk : List (Fin n)}
    (hwalk : ClosedWalk g.Needs start walk) : level current + 2 ≤ walk.length := by
  have hle := h.le_of_walk hsearch hwalk.1 hwalk.2 (Or.inl rfl)
  -- the start is on the lowest level
  rw [h.start_eq] at hle
  omega

end Levelled

/-! ## §4 — the states of a search -/

namespace Graph

/-- What a search for a way back to `start` has come to after a number of steps: who has been seen,
what is logged, and who is queued. -/
inductive Visits (g : Graph n) (start : Fin n) :
    Nat → Marks n → DiscoveryLog n → List (Fin n) → Prop where
  | init : Visits g start 0 .none [] [start]
  | next {steps : Nat} {seen : Marks n} {log : DiscoveryLog n} {current : Fin n}
      {queue : List (Fin n)} (before : Visits g start steps seen log (current :: queue))
      (goesOn : ¬ g.Needs current start) :
      Visits g start (steps + 1) (seen.addAll (g.newNeeds seen current))
        ((g.newNeeds seen current).reverse.map (·, current) ++ log)
        (queue ++ g.newNeeds seen current)

namespace Visits

variable {steps : Nat}

/-- What is found from such a state is what the search finds. -/
theorem search_eq (h : g.Visits start steps seen log queue) :
    g.search start seen log queue = g.shortestCycle start := by
  induction h with
  | init => rfl
  | @next steps seen log current queue _ goesOn ih =>
    rw [search] at ih
    exact (if_neg goesOn).symm.trans ih

/-- What holds of a search holds of every state it goes through. -/
theorem searching (h : g.Visits start steps seen log queue) :
    Searching g start seen log queue := by
  induction h with
  | init => exact .init g start
  | next _ goesOn ih => exact ih.next goesOn

/-- The log tells of everyone once, in every state. -/
theorem logged (hneeds : ∀ i, (g.needs.get i).Nodup) (h : g.Visits start steps seen log queue) :
    Logged start seen log := by
  induction h with
  | init => exact .init start
  | next before goesOn ih =>
    exact ih.next (hneeds _) (before.searching.queued _ List.mem_cons_self) goesOn

/-- There are levels in every state. -/
theorem exists_levelled (hneeds : ∀ i, (g.needs.get i).Nodup)
    (h : g.Visits start steps seen log queue) :
    ∃ level, Levelled g start level seen log queue := by
  induction h with
  | init => exact ⟨_, .init g start⟩
  | next before goesOn ih =>
    obtain ⟨level, hlevel⟩ := ih
    exact ⟨_, hlevel.next before.searching (before.logged hneeds) goesOn⟩

/-- Each step takes one position out of the queue, into which everyone comes once. -/
theorem steps_add_length (h : g.Visits start steps seen log queue) :
    steps + queue.length = log.length + 1 := by
  induction h with
  | init => rfl
  | next _ _ ih =>
    simp only [List.length_cons, List.length_append, List.length_map, List.length_reverse] at ih ⊢
    omega

/-- **A search takes no more steps than there are positions.** -/
theorem steps_add_length_le (hneeds : ∀ i, (g.needs.get i).Nodup)
    (h : g.Visits start steps seen log queue) : steps + queue.length ≤ n := by
  have hcard := (h.logged hneeds).nodup.length_le_card
  rw [List.length_cons, List.length_map, Fintype.card_fin] at hcard
  have := h.steps_add_length
  omega

/-- From every state the search goes on to a last one: the queue is empty, or its first position
needs the start. -/
theorem exists_last (h : g.Visits start steps seen log queue) :
    ∃ steps' seen' log' queue', g.Visits start steps' seen' log' queue' ∧
      ∀ current ∈ queue'.head?, g.Needs current start := by
  fun_induction search g start seen log queue generalizing steps with
  | case1 seen log => exact ⟨_, _, _, _, h, by simp⟩
  | case2 seen log current queue hback =>
    refine ⟨_, _, _, _, h, ?_⟩
    intro i hi
    obtain rfl := Option.some.inj hi
    exact hback
  | case3 seen log current queue hback ih => exact ih (h.next hback)

/-- **The first position that needs the start closes a shortest way back**, which is found by going
back along the log, from each position to the one that it was discovered from. -/
theorem exists_way (hneeds : ∀ i, (g.needs.get i).Nodup)
    (h : g.Visits start steps seen log (current :: queue)) (hback : g.Needs current start) :
    ∃ way, g.shortestCycle start = some (way ++ [start]) ∧
      Walk (fun i j => log.lookup j = some i) start current way ∧ start ∉ way.tail ∧
      ShortestCycle g.Needs start (way ++ [start]) := by
  have hsearch := h.searching
  obtain ⟨level, hlevel⟩ := h.exists_levelled hneeds
  -- tracing does not fail, as everyone in the queue is in the log
  obtain ⟨walk, htrace, -⟩ := hsearch.grounded.trace
    (hsearch.logged_of_queued List.mem_cons_self) (.step hback (.stay start))
  obtain ⟨way, rfl, hway, htail⟩ := DiscoveryLog.trace_eq_some htrace
  have hfound : g.shortestCycle start = some (way ++ [start]) := by
    rw [← h.search_eq, search, ← htrace]
    exact if_pos hback
  -- each entry of the log is a need, so the way is a walk
  have hclosed : ClosedWalk g.Needs start (way ++ [start]) := by
    refine ⟨(hway.mono fun i j hmem => hsearch.grounded.needs_of_mem hmem).snoc hback, ?_⟩
    obtain ⟨rest, rfl⟩ := hway.exists_cons
    simp
  -- the way has one position for each level, and no way back has fewer
  have hshortest : ∀ walk, ClosedWalk g.Needs start walk →
      (way ++ [start]).length ≤ walk.length := by
    intro walk hwalk
    have hle := hlevel.le_of_closedWalk hsearch hwalk
    have hlength := (hway.mono fun i j hmem => hlevel.logged (j, i) hmem).length_of_levels
    rw [hlevel.start_eq] at hlength
    rw [List.length_append, List.length_singleton]
    omega
  refine ⟨way, hfound, hway.mono fun i j hmem => (h.logged hneeds).lookup_of_mem hmem, htail,
    hclosed, hshortest, ?_⟩
  rw [List.dropLast_concat]
  exact hclosed.nodup_of_shortest hshortest

end Visits

/-- What the search finds is a shortest way back. -/
theorem shortestCycle_of_eq_some (hneeds : ∀ i, (g.needs.get i).Nodup) {chain : List (Fin n)}
    (h : g.shortestCycle start = some chain) : ShortestCycle g.Needs start chain := by
  have hinit : g.Visits start 0 .none [] [start] := .init
  obtain ⟨steps, seen, log, queue, hlast, hback⟩ := hinit.exists_last
  cases queue with
  | nil =>
    rw [← hlast.search_eq, search] at h
    exact absurd h (by simp)
  | cons current queue =>
    obtain ⟨way, hfound, -, -, hshortest⟩ := hlast.exists_way hneeds (hback current rfl)
    rw [hfound] at h
    obtain rfl := Option.some.inj h
    exact hshortest

end Graph

/-! ## §5 — the graph of a list of descriptors -/

theorem nodup_needs_ofDescriptors (descriptors : Vector Descriptor n) (i : Fin n) :
    ((Graph.ofDescriptors descriptors).needs.get i).Nodup := by
  simp only [Graph.ofDescriptors, get_eq_getElem, Vector.getElem_map]
  exact nodup_eraseDups _

/-- **The search is exact.** It finds nothing only if there is no way back to the start by asking, and
otherwise a way back as short as possible. It takes no more steps than there are registrations, and
when it has come to one that asks for the start, the log leads from this one back to the start
without a gap. -/
theorem shortestCycle_exact (descriptors : List Descriptor) (start : Fin descriptors.length) :
    let g := Graph.ofDescriptors (toVector descriptors)
    (g.shortestCycle start = none ↔ ¬ ∃ walk, ClosedWalk (Asks descriptors) start walk) ∧
    (∀ chain, g.shortestCycle start = some chain →
      ShortestCycle (Asks descriptors) start chain) ∧
    (∀ steps seen log queue, g.Visits start steps seen log queue →
      steps + queue.length ≤ descriptors.length) ∧
    ∀ steps seen log current queue, g.Visits start steps seen log (current :: queue) →
      Asks descriptors current start →
      ∃ way, Walk (fun i j => log.lookup j = some i) start current way ∧ start ∉ way.tail ∧
        g.shortestCycle start = some (way ++ [start]) := by
  intro g
  have hneeds : ∀ i, (g.needs.get i).Nodup := nodup_needs_ofDescriptors _
  have hasks : g.Needs = Asks descriptors := needs_ofDescriptors descriptors
  rw [← hasks]
  refine ⟨⟨?_, ?_⟩, fun _ => Graph.shortestCycle_of_eq_some hneeds,
    fun _ _ _ _ h => h.steps_add_length_le hneeds, ?_⟩
  · rintro hnone ⟨walk, hwalk, hlength⟩
    exact Graph.shortestCycle_eq_none_iff.mp hnone (hwalk.transGen hlength)
  · intro hnot
    cases hfound : g.shortestCycle start with
    | none => rfl
    | some chain =>
      exact absurd ⟨chain, (Graph.shortestCycle_of_eq_some hneeds hfound).closed⟩ hnot
  · intro steps seen log current queue h hback
    obtain ⟨way, hfound, hway, htail, -⟩ := h.exists_way hneeds hback
    exact ⟨way, hway, htail, hfound⟩

end Registrar.Ordering
