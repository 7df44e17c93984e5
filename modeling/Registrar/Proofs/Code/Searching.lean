import Registrar.Proofs.Code.FreshNames

/-!
# The search for a name

A name is searched for by trying one candidate after the other, and nothing in the search says when
to give up. It ends nevertheless: since only so many names are taken and the candidates are all
different, it comes to a free one, or else to the greatest value of the counter. There a checked
counter overflows. One that is not checked tries the other numbers as well, and only if all of them
are taken does the search go on for ever.

* `Names.Search` : the search, candidate after candidate.
* `Names.Search.eq` : it does not end in two ways.
* `Names.Search.of_passed` : candidates that are taken are passed over.
* `Names.not_search_of_taken` : a search without end.
* `Names.search_iff` : what the search ends with, and when it does.
-/

namespace Registrar.Code

/-- The next value of a counter, unless it overflows. -/
def Counting.next? : Counting → Int32 → Option Int32
  | .checked, n => if n = Int32.maxValue then none else some (n + 1)
  | .wrapping, n => some (n + 1)

namespace Names

/-- The search for a name, when the counter is at `n` and has given this candidate: the candidate is
the outcome unless it is taken, and otherwise the next number is put to the base. It has no name for
an outcome if there is no next number. A derivation is a search that ends. -/
inductive Search (names : Names) (counting : Counting) (base : String) :
    (n : Int32) → (candidate : String) → (outcome : Option String) → Prop where
  | stop {n : Int32} {candidate : String} (free : candidate ∉ names.taken) :
      Search names counting base n candidate (some candidate)
  | next {n m : Int32} {candidate : String} {outcome : Option String}
      (used : candidate ∈ names.taken) (counted : counting.next? n = some m)
      (more : Search names counting base m (numbered base m.toInt) outcome) :
      Search names counting base n candidate outcome
  | overflow {n : Int32} {candidate : String} (used : candidate ∈ names.taken)
      (last : counting.next? n = none) : Search names counting base n candidate none

variable {names : Names} {counting : Counting} {base candidate : String} {n : Int32}
  {outcome outcome' : Option String} {steps : Nat}

/-! ## §1 — the course of a search -/

/-- **A search does not end in two ways.** Induction on the search. -/
theorem Search.eq (h : names.Search counting base n candidate outcome)
    (h' : names.Search counting base n candidate outcome') : outcome = outcome' := by
  induction h with
  | stop free =>
    cases h' with
    | stop _ => rfl
    | next used _ _ => exact absurd used free
    | overflow used _ => exact absurd used free
  | next used counted _ ih =>
    cases h' with
    | stop free => exact absurd used free
    | next _ counted' more =>
      -- the counter goes on in one way
      obtain rfl := Option.some.inj (counted.symm.trans counted')
      exact ih more
    | overflow _ last => exact absurd (counted.symm.trans last) (by simp)
  | overflow used last =>
    cases h' with
    | stop free => exact absurd used free
    | next _ counted _ => exact absurd (last.symm.trans counted) (by simp)
    | overflow _ _ => rfl

/-- The counter goes on as long as it has not come to its limit. -/
theorem next?_counter (h : steps < counting.limit) :
    counting.next? (counter steps) = some (counter (steps + 1)) := by
  cases counting with
  | wrapping => rw [Counting.next?, counter_succ]
  | checked =>
    have hlt : steps + 1 < 2147483647 := by
      rw [Counting.limit] at h
      omega
    have hne : counter steps ≠ Int32.maxValue := by
      intro heq
      have hvalue : (counter steps).toInt = 2147483647 := by rw [heq]; rfl
      rw [toInt_counter_of_lt (by omega)] at hvalue
      omega
    rw [Counting.next?, if_neg hne, counter_succ]

theorem next?_limit : Counting.checked.next? (counter Counting.checked.limit) = none := by
  decide

/-- **Candidates that are taken are passed over.** Induction on how many there are. -/
theorem Search.of_passed {count : Nat} (hlimit : steps + count ≤ counting.limit)
    (hpassed : ∀ k, steps ≤ k → k < steps + count → Names.candidate base k ∈ names.taken)
    (h : names.Search counting base (counter (steps + count))
      (Names.candidate base (steps + count)) outcome) :
    names.Search counting base (counter steps) (Names.candidate base steps) outcome := by
  induction count generalizing steps with
  | zero => exact h
  | succ count ih =>
    -- the first of them is passed over, and then the others from one step further on
    have hshift : steps + (count + 1) = steps + 1 + count := by omega
    rw [hshift] at h
    have hmore := ih (by omega) (fun k hlow hhigh => hpassed k (by omega) (by omega)) h
    exact .next (hpassed steps (by omega) (by omega)) (next?_counter (by omega)) hmore

/-! ## §2 — how a search ends -/

/-- A search that comes to a free candidate ends with it. -/
theorem search_of_fresh? {name : String} (h : names.fresh? counting base = some name) :
    names.Search counting base 1 base (some name) := by
  obtain ⟨steps, hsteps, rfl, hfree, hbefore⟩ := fresh?_eq_some_iff.mp h
  have hstop : names.Search counting base (counter (0 + steps))
      (Names.candidate base (0 + steps)) (some (Names.candidate base steps)) := by
    rw [Nat.zero_add]
    exact .stop hfree
  exact hstop.of_passed (by omega) fun k _ hk => hbefore k (by omega)

/-- A search with a checked counter ends with an overflow if it does not come to a name. -/
theorem search_overflow (h : names.fresh? .checked base = none) :
    names.Search .checked base 1 base none := by
  have hall := fresh?_eq_none_iff.mp h
  -- every candidate up to the limit is taken, and so is the one at the limit
  have hoverflow : names.Search .checked base (counter (0 + Counting.checked.limit))
      (Names.candidate base (0 + Counting.checked.limit)) none := by
    rw [Nat.zero_add]
    exact .overflow (hall _ (Nat.le_refl _)) next?_limit
  exact hoverflow.of_passed (by omega) fun k _ hk => hall k (by omega)

/-- **Where everything is taken, a search with a wrapping counter does not end.** Induction on a
search that would: its last candidate would be free. -/
theorem not_search_of_taken (hcandidate : candidate ∈ names.taken)
    (hall : ∀ m : Int32, numbered base m.toInt ∈ names.taken) :
    ¬ names.Search .wrapping base n candidate outcome := by
  intro h
  -- whatever the search goes on with is taken again
  induction h with
  | stop free => exact free hcandidate
  | @next _ m _ _ _ _ _ ih => exact ih (hall m)
  | overflow _ last => exact absurd last (by simp [Counting.next?])

/-- **What the search ends with**: the first free name, if the counter comes to it, and otherwise an
overflow. A wrapping counter does not overflow, so there a search for what is not found does not
end. -/
theorem search_iff : names.Search counting base 1 base outcome ↔
    outcome = names.fresh? counting base ∧ (outcome = none → counting = .checked) := by
  cases hfresh : names.fresh? counting base with
  | some name =>
    have hsearch := search_of_fresh? hfresh
    refine ⟨fun h => ?_, fun ⟨h, _⟩ => h ▸ hsearch⟩
    obtain rfl := h.eq hsearch
    exact ⟨rfl, fun hnone => absurd hnone (by simp)⟩
  | none =>
    cases counting with
    | checked =>
      have hsearch := search_overflow hfresh
      exact ⟨fun h => ⟨h.eq hsearch, fun _ => rfl⟩, fun ⟨h, _⟩ => h ▸ hsearch⟩
    | wrapping =>
      have hall := fresh?_eq_none_iff.mp hfresh
      refine iff_of_false ?_ fun ⟨h, hchecked⟩ => absurd (hchecked h) (by simp)
      -- the counter comes to all numbers, so the base is taken with each of them
      refine not_search_of_taken (hall 0 (Nat.zero_le _)) fun m => ?_
      obtain ⟨steps, hsteps, rfl⟩ := exists_counter_eq m
      exact hall (steps + 1) hsteps

end Names

end Registrar.Code
