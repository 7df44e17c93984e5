import Mathlib.Data.List.Nodup
import Mathlib.Data.List.Perm.Subperm
import Registrar.Code.Names

/-!
# Fresh names

The names that are tried for a base are different until the counter comes back to where it started.
So where all of the first so many are taken, as many names are taken at least, and the search for the
first free one need not go further than that. The counter is of 32 bits: a checked one counts from 2
to 2147483647, and the other then goes on with the negative numbers, 0 and 1.

* `toInt_counter_of_lt`, `toInt_counter_of_le` : which numbers the counter comes to.
* `counter_inj`, `exists_counter_eq` : it comes to each number once before it is back at 1.
* `candidate_inj` : the names that are tried are different.
* `le_length_taken` : as many names are taken as the search passes over.
* `fresh?_eq_some_iff`, `fresh?_eq_none_iff` : which of them is given, and when none is.
* `fresh_of_fresh?` : what is given does not depend on whether the counter is checked.
-/

namespace Registrar.Code.Names

variable {names : Names} {counting : Counting} {base name : String} {steps : Nat}

/-! ## §1 — numbers -/

theorem toInt_counter_of_lt (h : steps + 1 < 2147483648) : (counter steps).toInt = steps + 1 :=
  Int32.toInt_ofNat_of_lt h

/-- After its greatest value the counter goes on at its least one. -/
theorem toInt_counter_of_le (hlow : 2147483648 ≤ steps + 1) (hhigh : steps ≤ 4294967296) :
    (counter steps).toInt = steps + 1 - 4294967296 := by
  have hsize : (Int32.size : Int) = 4294967296 := rfl
  rw [counter, Int32.toInt_ofNat', Int.bmod, hsize]
  omega

theorem counter_succ (steps : Nat) : counter (steps + 1) = counter steps + 1 :=
  Int32.ofNat_add (steps + 1) 1

/-- The counter comes to each number once before it is back at 1. -/
theorem counter_inj {j k : Nat} (hj : 0 < j) (hk : 0 < k) (hj' : j ≤ 4294967296) (hk' : k ≤ 4294967296)
    (h : (counter j).toInt = (counter k).toInt) : j = k := by
  -- below the greatest value, or above it, on either side
  rcases Nat.lt_or_ge (j + 1) 2147483648 with hjlow | hjhigh <;>
    rcases Nat.lt_or_ge (k + 1) 2147483648 with hklow | hkhigh
  · rw [toInt_counter_of_lt hjlow, toInt_counter_of_lt hklow] at h
    omega
  · rw [toInt_counter_of_lt hjlow, toInt_counter_of_le hkhigh hk'] at h
    omega
  · rw [toInt_counter_of_le hjhigh hj', toInt_counter_of_lt hklow] at h
    omega
  · rw [toInt_counter_of_le hjhigh hj', toInt_counter_of_le hkhigh hk'] at h
    omega

/-- The counter comes to every number before it is back at 1. -/
theorem exists_counter_eq (n : Int32) : ∃ steps, steps + 1 ≤ 4294967296 ∧ counter (steps + 1) = n := by
  have hlow := n.le_toInt
  have hhigh := n.toInt_lt
  by_cases hpositive : 1 < n.toInt
  · -- it comes to the numbers from 2 on first
    refine ⟨n.toInt.toNat - 2, by omega, Int32.toInt_inj.mp ?_⟩
    rw [toInt_counter_of_lt (by omega)]
    omega
  · -- and to the others after its greatest value
    refine ⟨(n.toInt + 4294967296 - 2).toNat, by omega, Int32.toInt_inj.mp ?_⟩
    rw [toInt_counter_of_le (by omega) (by omega)]
    omega

/-! ## §2 — candidates -/

/-- Different numbers are written differently. -/
theorem repr_injective : Function.Injective Nat.repr := by
  intro n m h
  rw [Nat.repr_eq_ofList_toDigits, Nat.repr_eq_ofList_toDigits, String.ofList_inj] at h
  -- the digits say the number
  have hvalue := congrArg (Nat.ofDigitChars 10 · 0) h
  rwa [Nat.ofDigitChars_ten_toDigits, Nat.ofDigitChars_ten_toDigits] at hvalue

/-- Digits do not begin with a sign. -/
theorem repr_ne_minus (n : Nat) (text : String) : n.repr ≠ "-" ++ text := by
  intro h
  have hmem : '-' ∈ n.repr.toList := by simp [h]
  rw [Nat.repr_eq_ofList_toDigits, String.toList_ofList] at hmem
  exact absurd (Nat.isDigit_of_mem_toDigits (by decide) (by decide) hmem) (by decide)

/-- A numbered name tells its number. -/
theorem numbered_injective (base : String) : Function.Injective (numbered base) := by
  intro n m h
  have htext : toString n = toString m := (String.append_right_inj _).mp h
  -- the sign tells negative numbers from the others, and the digits tell the rest
  cases n with
  | ofNat n =>
    cases m with
    | ofNat m => exact congrArg Int.ofNat (repr_injective htext)
    | negSucc m => exact absurd htext (repr_ne_minus n _)
  | negSucc n =>
    cases m with
    | ofNat m => exact absurd htext.symm (repr_ne_minus m _)
    | negSucc m =>
      have hrepr : (n + 1).repr = (m + 1).repr := (String.append_right_inj "-").mp htext
      exact congrArg Int.negSucc (Nat.succ.inj (repr_injective hrepr))

/-- A name with a number is not the name itself, as it is longer. -/
theorem numbered_ne (base : String) (n : Int) : numbered base n ≠ base := by
  intro h
  have hlength := congrArg (·.toList.length) h
  simp [numbered] at hlength

/-- **The names that are tried are different**, until the counter is back at 1. -/
theorem candidate_inj {j k : Nat} (hj : j ≤ 4294967296) (hk : k ≤ 4294967296)
    (h : candidate base j = candidate base k) : j = k := by
  cases j with
  | zero =>
    cases k with
    | zero => rfl
    | succ k => exact absurd h.symm (numbered_ne base _)
  | succ j =>
    cases k with
    | zero => exact absurd h (numbered_ne base _)
    | succ k =>
      exact counter_inj (Nat.succ_pos j) (Nat.succ_pos k) hj hk (numbered_injective base h)

theorem candidate_of_lt (h : steps + 2 < 2147483648) :
    candidate base (steps + 1) = numbered base (steps + 2 : Nat) := by
  rw [candidate, toInt_counter_of_lt h]
  exact congrArg (numbered base) (by omega)

theorem candidate_of_le (hlow : 2147483648 ≤ steps + 1) (hhigh : steps ≤ 4294967296) :
    candidate base steps = numbered base (steps + 1 - 4294967296) := by
  obtain ⟨earlier, rfl⟩ := Nat.exists_eq_add_of_le' (show 1 ≤ steps by omega)
  rw [candidate, toInt_counter_of_le hlow hhigh]

/-! ## §3 — the first free one -/

theorem limit_le (counting : Counting) : counting.limit ≤ 4294967296 := by
  cases counting <;> decide

/-- As many names are taken as the search passes over, since they are different. -/
theorem le_length_taken {count : Nat} (hcount : count ≤ 4294967297)
    (h : ∀ steps < count, candidate base steps ∈ names.taken) : count ≤ names.taken.length := by
  -- distinct names, all of them taken, are no more than the taken names
  have hnodup : ((List.range count).map (candidate base)).Nodup := by
    refine List.Nodup.map_on ?_ List.nodup_range
    intro j hj k hk heq
    have hj' := List.mem_range.mp hj
    have hk' := List.mem_range.mp hk
    exact candidate_inj (by omega) (by omega) heq
  have hsubset : (List.range count).map (candidate base) ⊆ names.taken := by
    intro name hname
    obtain ⟨steps, hsteps, rfl⟩ := List.mem_map.mp hname
    exact h steps (List.mem_range.mp hsteps)
  have hle := (hnodup.subperm hsubset).length_le
  rwa [List.length_map, List.length_range] at hle

/-- **The first name that is free is given**, if the counter comes to it. -/
theorem fresh?_eq_some_iff : names.fresh? counting base = some name ↔
    ∃ steps ≤ counting.limit, name = candidate base steps ∧
      candidate base steps ∉ names.taken ∧ ∀ k < steps, candidate base k ∈ names.taken := by
  have hlimit := limit_le counting
  rw [fresh?, Option.map_eq_some_iff]
  constructor
  · rintro ⟨steps, hfind, rfl⟩
    obtain ⟨hfree, hsteps, hbefore⟩ := List.find?_range_eq_some.mp hfind
    have hle := List.mem_range.mp hsteps
    refine ⟨steps, by omega, rfl, by simpa using hfree, fun k hk => ?_⟩
    simpa using hbefore k hk
  · rintro ⟨steps, hsteps, rfl, hfree, hbefore⟩
    -- what is passed over is taken, so the search does not go beyond the count of taken names
    have hcount : steps ≤ names.taken.length := le_length_taken (by omega) hbefore
    refine ⟨steps, List.find?_range_eq_some.mpr ⟨by simpa using hfree, ?_, fun k hk => ?_⟩, rfl⟩
    · exact List.mem_range.mpr (by omega)
    · simpa using hbefore k hk

/-- **No name is given if all are taken** that the counter comes to. -/
theorem fresh?_eq_none_iff : names.fresh? counting base = none ↔
    ∀ steps ≤ counting.limit, candidate base steps ∈ names.taken := by
  constructor
  · intro hnone steps hsteps
    induction steps using Nat.strongRecOn with
    | ind steps ih =>
      -- were it free, it would be the first free one
      by_contra hfree
      have hsome := fresh?_eq_some_iff.mpr
        ⟨steps, hsteps, rfl, hfree, fun k hk => ih k hk (by omega)⟩
      exact absurd (hnone.symm.trans hsome) (by simp)
  · intro h
    rw [Option.eq_none_iff_forall_ne_some]
    intro name hname
    obtain ⟨steps, hsteps, -, hfree, -⟩ := fresh?_eq_some_iff.mp hname
    exact hfree (h steps hsteps)

/-- **A name that is given was not taken.** -/
theorem not_mem_of_fresh? (h : names.fresh? counting base = some name) : name ∉ names.taken := by
  obtain ⟨steps, -, rfl, hfree, -⟩ := fresh?_eq_some_iff.mp h
  exact hfree

/-- What a checked counter comes to, the other comes to as well. -/
theorem fresh?_of_checked (h : names.fresh? .checked base = some name) :
    names.fresh? counting base = some name := by
  obtain ⟨steps, hsteps, hname, hfree, hbefore⟩ := fresh?_eq_some_iff.mp h
  have hlimit : Counting.checked.limit ≤ counting.limit := by cases counting <;> decide
  exact fresh?_eq_some_iff.mpr ⟨steps, Nat.le_trans hsteps hlimit, hname, hfree, hbefore⟩

/-- **What is given does not depend on whether the counter is checked.** -/
theorem fresh_of_fresh? (h : names.fresh? counting base = some name) :
    names.fresh base = name := by
  have hwrapping : names.fresh? .wrapping base = some name := by
    cases counting with
    | checked => exact fresh?_of_checked h
    | wrapping => exact h
  rw [fresh, hwrapping, Option.getD_some]

/-- The name is `base` or has a number, whatever is taken. -/
theorem fresh_cases (names : Names) (base : String) :
    names.fresh base = base ∨ ∃ n : Int, names.fresh base = numbered base n := by
  cases h : names.fresh? .wrapping base with
  | none => exact Or.inl (by rw [fresh, h, Option.getD_none])
  | some name =>
    obtain ⟨steps, -, hname, -, -⟩ := fresh?_eq_some_iff.mp h
    rw [fresh_of_fresh? h, hname]
    cases steps with
    | zero => exact Or.inl rfl
    | succ steps => exact Or.inr ⟨_, rfl⟩

end Registrar.Code.Names
