import Mathlib.Data.List.NodupEquivFin
import Mathlib.Data.List.Perm.Subperm
import Registrar.Proofs.Ordering.Stability

/-!
# Registrations in other places

What a registration asks for is decided by what it is, not by where it stands. So a list of
registrations whose members are all found in another list, in whatever places and among whatever
others, has its requirements there too, and its cycles. When nothing else is in the other list, this
holds both ways.

* `Relocates` : where the registrations of a list are found in another one.
* `Relocates.requires`, `Relocates.blocked`, `Relocates.isShown` : what is found with them.
* `cycles_not_hidden` : more registrations, or another order of them, hide no cycle.
* `order_of_startUpOrder` : a list that is arranged safely already is left as it is.
* `order_order` : ordering a second time changes nothing.
-/

namespace Registrar.Ordering

open Relation

/-- Each registration of `here` is found in `there`, in the place that is given for it. -/
def Relocates (here there : List Descriptor) (place : Fin here.length → Fin there.length) : Prop :=
  ∀ i, there.get (place i) = here.get i

/-- A chain that the order of registrations reports shows this registration. -/
def IsShown (descriptors : List Descriptor) (i : Fin descriptors.length) : Prop :=
  ∃ chain ∈ chains descriptors, i ∈ chain

/-- The singletons that the reports on a list of registrations show. -/
def shownSingletons (descriptors : List Descriptor) : Set Descriptor :=
  { d | ∃ i, descriptors.get i = d ∧ IsSingleton descriptors i ∧ IsShown descriptors i }

/-! ## §1 — what is found in other places -/

namespace Relocates

variable {here there : List Descriptor} {place : Fin here.length → Fin there.length}
  {i j : Fin here.length}

theorem asks (h : Relocates here there place) (hij : Asks here i j) :
    Asks there (place i) (place j) := by
  unfold Asks
  rw [h i, h j]
  exact hij

theorem isSingleton_iff (h : Relocates here there place) :
    IsSingleton there (place i) ↔ IsSingleton here i := by
  rw [IsSingleton, IsSingleton, h i]

/-- **Requirements are found in the other list.** Induction on how one registration is come to: what
is gone through is no singleton there either. -/
theorem requires (h : Relocates here there place) (hij : Requires here i j) :
    Requires there (place i) (place j) := by
  induction hij with
  | asked singleton asks => exact .asked (h.isSingleton_iff.mpr singleton) (h.asks asks)
  | through _ lazy asks ih =>
    exact ih.through (fun hsingleton => lazy (h.isSingleton_iff.mp hsingleton)) (h.asks asks)

/-- What leads to a cycle leads to one in the other list. -/
theorem blocked (h : Relocates here there place) (hi : i ∈ (constraints here).finish.blocked) :
    place i ∈ (constraints there).finish.blocked := by
  rw [mem_blocked_constraints_iff] at hi ⊢
  obtain ⟨hsingleton, k, hk, hik, hkk⟩ := hi
  have hrequires : ∀ a b, Requires here a b → Requires there (place a) (place b) :=
    fun _ _ => h.requires
  exact ⟨h.isSingleton_iff.mpr hsingleton, place k, h.isSingleton_iff.mpr hk,
    hik.lift place hrequires, hkk.lift place hrequires⟩

/-- **A singleton that is shown on a chain is shown in the other list**, though maybe on another
chain: what matters is only that it can be come back to. -/
theorem isShown (h : Relocates here there place) (hi : IsSingleton here i)
    (hshown : IsShown here i) : IsShown there (place i) := by
  have hcycle : TransGen (Asks here) i i := (exists_mem_chains_iff hi).mp hshown
  have hcycle' : TransGen (Asks there) (place i) (place i) :=
    hcycle.lift place fun _ _ => h.asks
  exact (exists_mem_chains_iff (h.isSingleton_iff.mpr hi)).mpr hcycle'

end Relocates

/-! ## §2 — more registrations -/

variable {fewer more descriptors : List Descriptor}

/-- If each registration of a list is in another one, all are found there, and any one of them in
whichever of its places one likes. -/
theorem exists_relocates_of_subset (h : fewer ⊆ more) {i : Fin fewer.length} {j : Fin more.length}
    (hij : more.get j = fewer.get i) : ∃ place, Relocates fewer more place ∧ place i = j := by
  have hfound : ∀ k, ∃ l, more.get l = fewer.get k := fun k =>
    List.mem_iff_get.mp (h (fewer.get_mem k))
  choose place hplace using hfound
  -- equal registrations may stand in several places, so that of `i` is set by hand
  refine ⟨Function.update place i j, ?_, Function.update_self i j place⟩
  intro k
  by_cases hk : k = i
  · subst hk
    rw [Function.update_self, hij]
  · rw [Function.update_of_ne hk, hplace k]

/-- A singleton that is shown stays shown in a list that has all registrations of the first one. -/
theorem isShown_of_subset (h : fewer ⊆ more) {i : Fin fewer.length} {j : Fin more.length}
    (hij : more.get j = fewer.get i) (hi : IsSingleton fewer i) (hshown : IsShown fewer i) :
    IsShown more j := by
  obtain ⟨place, hplace, rfl⟩ := exists_relocates_of_subset h hij
  exact hplace.isShown hi hshown

/-- More registrations show at least the same singletons. -/
theorem shownSingletons_subset (h : fewer ⊆ more) :
    shownSingletons fewer ⊆ shownSingletons more := by
  rintro d ⟨i, rfl, hi, hshown⟩
  obtain ⟨j, hij⟩ := List.mem_iff_get.mp (h (fewer.get_mem i))
  have hj : IsSingleton more j := by
    rw [IsSingleton, hij]
    exact hi
  exact ⟨j, hij, hj, isShown_of_subset h hij hi hshown⟩

/-- **More registrations hide no cycle, and neither does another order of them.** A singleton that
is on a chain is on one as well in a list that has other registrations besides, wherever it stands
there; and which singletons are on chains does not depend on the order in which they are listed. -/
theorem cycles_not_hidden (h : fewer.Subperm more) :
    (∀ locate, (order fewer .dependencyOrder locate).diagnostics =
        (chains fewer).map (chainDiagnostic locate) ∧
      (order more .dependencyOrder locate).diagnostics =
        (chains more).map (chainDiagnostic locate)) ∧
    (∀ i, IsSingleton fewer i → IsShown fewer i →
      (∃ j, more.get j = fewer.get i) ∧ ∀ j, more.get j = fewer.get i → IsShown more j) ∧
    (fewer.Perm more → shownSingletons fewer = shownSingletons more) := by
  refine ⟨?_, ?_, ?_⟩
  · intro locate
    exact ⟨order_dependencyOrder_diagnostics locate, order_dependencyOrder_diagnostics locate⟩
  · intro i hi hshown
    refine ⟨List.mem_iff_get.mp (h.subset (fewer.get_mem i)), ?_⟩
    intro j hij
    exact isShown_of_subset h.subset hij hi hshown
  · intro hperm
    exact Set.Subset.antisymm (shownSingletons_subset hperm.subset)
      (shownSingletons_subset hperm.symm.subset)

/-- Two singletons that ask for each other, listed the other way round and with one more provider
between them. -/
theorem cycles_not_hidden_reordered :
    let ping : Descriptor := ⟨⟨"Ping"⟩, ⟨"IPing"⟩, .singleton, [⟨"IPong"⟩]⟩
    let pong : Descriptor := ⟨⟨"Pong"⟩, ⟨"IPong"⟩, .singleton, [⟨"IPing"⟩]⟩
    let wall : Descriptor := ⟨⟨"Wall"⟩, ⟨"IPong"⟩, .transient, []⟩
    [ping, pong].Subperm [pong, wall, ping] ∧
      IsSingleton [ping, pong] 0 ∧ IsShown [ping, pong] 0 ∧ IsShown [pong, wall, ping] 2 := by
  intro ping pong wall
  have hsub : [ping, pong].Subperm [pong, wall, ping] :=
    (List.Perm.swap pong ping []).subperm.trans
      (List.Sublist.cons_cons pong (List.sublist_cons_self wall [ping])).subperm
  have hping : IsSingleton [ping, pong] 0 := rfl
  have hthere : Asks [ping, pong] 0 1 := by
    unfold Asks
    decide
  have hback : Asks [ping, pong] 1 0 := by
    unfold Asks
    decide
  have hshown : IsShown [ping, pong] 0 :=
    (exists_mem_chains_iff hping).mpr (.tail (.single hthere) hback)
  exact ⟨hsub, hping, hshown, ((cycles_not_hidden hsub).2.1 0 hping hshown).2 2 rfl⟩

/-! ## §3 — ordering again -/

namespace Relocates

variable {here there : List Descriptor} {place : Fin here.length ≃ Fin there.length}

theorem symm (h : Relocates here there place) : Relocates there here place.symm := by
  intro j
  rw [← h (place.symm j), place.apply_symm_apply]

/-- If nothing else is in the other list, the same registrations are blocked in both. -/
theorem blocked_iff (h : Relocates here there place) {i : Fin here.length} :
    place i ∈ (constraints there).finish.blocked ↔ i ∈ (constraints here).finish.blocked := by
  refine ⟨?_, h.blocked⟩
  intro hi
  have hback := h.symm.blocked hi
  rwa [place.symm_apply_apply] at hback

end Relocates

/-- Whatever stands before something in the other places stands before it. -/
theorem ComesAfter.of_map {m n : Nat} {r : Fin m → Fin m → Prop} {r' : Fin n → Fin n → Prop}
    {f : Fin m → Fin n} (hf : Function.Injective f) (hr : ∀ i j, r i j → r' (f i) (f j))
    {order : List (Fin m)} (h : ComesAfter r' (order.map f)) : ComesAfter r order := by
  intro earlier i later horder j hij
  have hsplit : order.map f = earlier.map f ++ f i :: later.map f := by simp [horder]
  have hmem : f j ∈ earlier.map f := h _ _ _ hsplit (f j) (hr i j hij)
  exact (List.mem_map_of_injective hf).mp hmem

/-- Positions that hold a safe order once they are relocated hold one where they are, if they are
all there and rising. -/
theorem StartUpOrder.of_relocates {here there : List Descriptor}
    {place : Fin here.length ≃ Fin there.length} (hplace : Relocates here there place)
    {ordered blocked : List (Fin here.length)}
    (hall : ordered ++ blocked = List.finRange here.length)
    (h : StartUpOrder there (ordered.map place) (blocked.map place)) :
    StartUpOrder here ordered blocked := by
  refine ⟨by rw [hall], ?_, ?_, ?_⟩
  · exact h.comesAfter.of_map place.injective fun _ _ => hplace.requires
  · intro i
    -- what is blocked depends on the registrations only, which are the same in both lists
    rw [← mem_blocked_constraints_iff, ← hplace.blocked_iff, mem_blocked_constraints_iff,
      ← h.mem_blocked_iff, List.mem_map_of_injective place.injective]
  · have hrising := List.pairwise_lt_finRange here.length
    rw [← hall, List.pairwise_append] at hrising
    exact hrising.2.1

/-- The registrations that are picked by positions, each position once, are found in those. -/
theorem exists_relocates_of_perm {positions : List (Fin descriptors.length)}
    (h : positions.Perm (List.finRange descriptors.length)) :
    ∃ place : Fin (positions.map descriptors.get).length ≃ Fin descriptors.length,
      Relocates (positions.map descriptors.get) descriptors place ∧
      (List.finRange (positions.map descriptors.get).length).map place = positions := by
  have hnodup : positions.Nodup := h.nodup_iff.mpr (List.nodup_finRange _)
  have hall : ∀ i, i ∈ positions := fun i => h.mem_iff.mpr (List.mem_finRange i)
  -- position `k` of the new list is the `k`-th of the positions
  refine ⟨(finCongr (List.length_map _)).trans (hnodup.getEquivOfForallMemList positions hall),
    ?_, ?_⟩
  · intro i
    simp
  · apply List.ext_get
    · simp
    · intro k hk hk'
      simp

/-- **A list that is arranged safely already is left as it is.** In the places that the arrangement
gives to the registrations, the same ones are blocked, and all others come after what they require;
so that these places, one after the other, are a stable order, and there is only one. -/
theorem order_of_startUpOrder {ordered blocked : List (Fin descriptors.length)}
    (h : StartUpOrder descriptors ordered blocked) (locate : TypeName → Option Location) :
    (order ((ordered ++ blocked).map descriptors.get) .dependencyOrder locate).descriptors =
      (ordered ++ blocked).map descriptors.get := by
  obtain ⟨place, hplace, hpositions⟩ := exists_relocates_of_perm h.perm
  let arranged := (ordered ++ blocked).map descriptors.get
  let front := (List.finRange arranged.length).take ordered.length
  let back := (List.finRange arranged.length).drop ordered.length
  have hfront : front.map place = ordered := by
    rw [List.map_take, hpositions, List.take_left]
  have hback : back.map place = blocked := by
    rw [List.map_drop, hpositions, List.drop_left]
  have hall : front ++ back = List.finRange arranged.length := List.take_append_drop _ _
  -- the list in its own order, cut where the blocked registrations begin
  have hsafe : StartUpOrder arranged front back := by
    apply StartUpOrder.of_relocates hplace hall
    rw [hfront, hback]
    exact h
  have hstable : StableOrder arranged front back := by
    apply hsafe.stableOrder_of_rising
    rw [hall]
    exact List.pairwise_lt_finRange _
  calc (order arranged .dependencyOrder locate).descriptors
      = (front ++ back).map arranged.get := order_descriptors_of_stableOrder hstable locate
    _ = arranged := by rw [hall, List.map_get_finRange]

/-- **Ordering a second time changes nothing**, not even for what is blocked. -/
theorem order_order (descriptors : List Descriptor) (policy : OrderingPolicy)
    (locate locate' : TypeName → Option Location) :
    (order (order descriptors policy locate).descriptors policy locate').descriptors =
      (order descriptors policy locate).descriptors := by
  cases policy with
  | firstSeen => rfl
  | dependencyOrder =>
    rw [order_dependencyOrder_descriptors descriptors]
    exact order_of_startUpOrder (startUpOrder_emission descriptors) locate'

end Registrar.Ordering
