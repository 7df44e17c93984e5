import Mathlib.Order.Lattice.Nat
import Registrar.Proofs.Lists
import Registrar.Selection

/-!
# The rules of selection

Which constructor is taken, or what is reported instead, is settled by five rules that exclude each
other: on the constructors that are eligible, on the marked ones among them, and on the most
parameters that any of them has. The rules are stated on what is declared of a constructor. The
selection follows them, and as they speak of the eligible constructors only, nothing else about the
constructors matters; their order does not matter either, but for the order of the labels that point
at several marked ones.

* `Service.eligible`, `Service.eligibleMarked`, `Service.IsMaxArity` : what the rules speak of.
* `Service.Selects` : the rules, one constructor for each.
* `Service.qualifying_eq`, `Service.marked_eq`, `Service.IsMaxArity.eq_maxArity`,
  `Service.greediest_eq` : the selection finds what they speak of.
* `Service.selects_selection`, `Service.Selects.selection_eq` : the selection is what they say.
* `Service.FollowsRules` : what an outcome tells about the service.
* `Service.Selects.reorder` : the rules on the same constructors in another order.
* `selection_by_rules` : the selection follows the rules.
-/

namespace Registrar

namespace Service

/-! ## §1 — the rules -/

/-- The constructors that are neither private nor static. -/
def eligible (service : Service) : List Constructor :=
  service.constructors.filter fun c => c.accessibility ≠ .«private» ∧ c.isStatic = false

/-- The eligible constructors that carry the marker. -/
def eligibleMarked (service : Service) : List Constructor :=
  service.eligible.filter fun c => c.isMarked = true

/-- `arity` is the most parameters that an eligible constructor has. -/
structure IsMaxArity (service : Service) (arity : Nat) : Prop where
  attained : ∃ c ∈ service.eligible, c.parameters.length = arity
  bound : ∀ c ∈ service.eligible, c.parameters.length ≤ arity

/-- The eligible constructors with so many parameters. -/
def ofArity (service : Service) (arity : Nat) : List Constructor :=
  service.eligible.filter fun c => c.parameters.length = arity

/-- Markers decide nothing, since there are none or too many of them, so the most parameters have
to. -/
structure GoesByArity (service : Service) (policy : MarkerPolicy) (arity : Nat) : Prop where
  unmarked : service.eligibleMarked = [] ∨
    2 ≤ service.eligibleMarked.length ∧ policy = .fallThrough
  most : service.IsMaxArity arity

/-- The report on a service without an eligible constructor. -/
def noneQualifiesReport (service : Service) : Diagnostic :=
  { code := .noEligibleConstructor
    severity := .error
    args := [service.className.simpleName]
    location := service.location
    labels := []
    notes := ["private and static constructors cannot be used for injection"]
    suggestions := [] }

/-- The report on several marked constructors: how many there are, and a label at each of them whose
place is known. -/
def severalMarkedReport (service : Service) : Diagnostic :=
  { code := .multipleInjectionConstructors
    severity := .error
    args := [service.className.simpleName, toString service.eligibleMarked.length]
    location := service.location
    labels := (service.eligibleMarked.filterMap (·.location)).map fun place =>
      ⟨place, "annotated with [Constructor]"⟩
    notes := []
    suggestions := ["remove [Constructor] from all but one constructor"] }

/-- The report on several constructors with the most parameters: how many these are, and how many
constructors. -/
def tiedReport (service : Service) (arity tied : Nat) : Diagnostic :=
  { code := .ambiguousConstructor
    severity := .warning
    args := [service.className.simpleName, toString arity]
    location := service.location
    labels := []
    notes := [toString tied ++ " constructors take " ++ toString arity ++ " parameters"]
    suggestions := ["annotate the constructor to use with [Constructor]"] }

/-- What the rules say about a service: which constructor is taken, or what is reported. -/
inductive Selects (service : Service) (policy : MarkerPolicy) :
    Except Diagnostic Selection → Prop where
  | noneQualifies (none : service.eligible = []) :
      Selects service policy (.error service.noneQualifiesReport)
  | marked {c : Constructor} (sole : service.eligibleMarked = [c]) :
      Selects service policy (.ok ⟨c, .marked⟩)
  | severalMarked (several : 2 ≤ service.eligibleMarked.length) (strict : policy = .strict) :
      Selects service policy (.error service.severalMarkedReport)
  | greedy {arity : Nat} {c : Constructor} (most : service.GoesByArity policy arity)
      (sole : service.ofArity arity = [c]) : Selects service policy (.ok ⟨c, .greedy⟩)
  | tied {arity : Nat} (most : service.GoesByArity policy arity)
      (several : 2 ≤ (service.ofArity arity).length) :
      Selects service policy
        (.error (service.tiedReport arity (service.ofArity arity).length))

/-- What the selection gives to its caller: the constructor that is taken, or a diagnostic. -/
def selection (service : Service) (policy : MarkerPolicy) : Except Diagnostic Selection :=
  (service.select policy).mapError (·.report service)

variable {service : Service} {policy : MarkerPolicy}

/-! ## §2 — the selection finds what the rules speak of -/

theorem qualifying_eq (service : Service) : service.qualifying = service.eligible := by
  -- constructor for constructor, the flag that is tested is the condition
  refine List.filter_congr fun c _ => ?_
  cases hstatic : c.isStatic <;> simp [Constructor.qualifies, hstatic]

theorem marked_eq (service : Service) : service.marked = service.eligibleMarked := by
  rw [marked, qualifying_eq, eligibleMarked]
  simp only [Bool.decide_eq_true]

theorem eligible_ne_nil_of_marked (h : service.eligibleMarked ≠ []) : service.eligible ≠ [] := by
  intro hnil
  apply h
  rw [eligibleMarked, hnil, List.filter_nil]

theorem IsMaxArity.eligible_ne_nil {arity : Nat} (h : service.IsMaxArity arity) :
    service.eligible ≠ [] := by
  obtain ⟨c, hc, -⟩ := h.attained
  exact List.ne_nil_of_mem hc

/-- What the selection computes for the greatest arity is the most parameters. -/
theorem isMaxArity_maxArity (h : service.eligible ≠ []) :
    service.IsMaxArity service.maxArity := by
  have hne : service.eligible.map (·.arity) ≠ [] := by simpa using h
  obtain ⟨most, hmost⟩ := Option.ne_none_iff_exists'.mp (mt List.max?_eq_none_iff.mp hne)
  -- no number is below zero, with which the computation starts
  have hmax : service.maxArity = most := by
    rw [maxArity, qualifying_eq, List.foldl_max, hmost]
    exact Nat.zero_max most
  obtain ⟨hmem, hbound⟩ := List.max?_eq_some_iff.mp hmost
  rw [hmax]
  refine ⟨List.mem_map.mp hmem, ?_⟩
  intro c hc
  exact hbound c.arity (List.mem_map_of_mem hc)

/-- There is only one such number. -/
theorem IsMaxArity.eq_maxArity {arity : Nat} (h : service.IsMaxArity arity) :
    arity = service.maxArity := by
  have hmax := isMaxArity_maxArity h.eligible_ne_nil
  obtain ⟨c, hc, hcarity⟩ := h.attained
  obtain ⟨d, hd, hdarity⟩ := hmax.attained
  have hle : arity ≤ service.maxArity := hcarity ▸ hmax.bound c hc
  have hge : service.maxArity ≤ arity := hdarity ▸ h.bound d hd
  omega

theorem greediest_eq (service : Service) : service.greediest = service.ofArity service.maxArity := by
  rw [greediest, qualifying_eq]
  rfl

/-- Some constructor has the most parameters, if there is any. -/
theorem greediest_ne_nil (h : service.eligible ≠ []) : service.greediest ≠ [] := by
  obtain ⟨c, hc, hcarity⟩ := (isMaxArity_maxArity h).attained
  apply List.ne_nil_of_mem (a := c)
  rw [greediest_eq, ofArity, List.mem_filter]
  exact ⟨hc, by simpa using hcarity⟩

/-! ## §3 — the selection follows the rules -/

theorem select_of_nil (h : service.eligible = []) :
    service.select policy = .error .noneQualifies := by
  unfold select
  rw [qualifying_eq, h]
  rfl

/-- One marked constructor is taken. -/
theorem select_of_sole {c : Constructor} (h : service.eligibleMarked = [c]) :
    service.select policy = .ok ⟨c, .marked⟩ := by
  -- the marked constructor is an eligible one, so there is something to take
  have hne : service.eligible ≠ [] := eligible_ne_nil_of_marked (by simp [h])
  unfold select
  rw [qualifying_eq, if_neg (by simpa using hne), marked_eq, h]

/-- Several marked ones are refused under the strict policy. -/
theorem select_of_several (h : 2 ≤ service.eligibleMarked.length) :
    service.select .strict = .error (.severalMarked service.eligibleMarked) := by
  obtain ⟨c, d, rest, hmarked⟩ := exists_cons_cons_of_two_le h
  have hne : service.eligible ≠ [] := eligible_ne_nil_of_marked (by simp [hmarked])
  unfold select
  rw [qualifying_eq, if_neg (by simpa using hne), marked_eq, hmarked]

/-- Otherwise the number of parameters decides. -/
theorem select_of_goesByArity {arity : Nat} (h : service.GoesByArity policy arity) :
    service.select policy = service.selectGreedy := by
  unfold select
  rw [qualifying_eq, if_neg (by simpa using h.most.eligible_ne_nil), marked_eq]
  rcases h.unmarked with hnil | ⟨hseveral, rfl⟩
  · rw [hnil]
  · obtain ⟨c, d, rest, hmarked⟩ := exists_cons_cons_of_two_le hseveral
    rw [hmarked]

/-- The only constructor with the most parameters is taken, and a tie is reported. -/
theorem selects_selectGreedy {arity : Nat} (h : service.GoesByArity policy arity) :
    Selects service policy (service.selectGreedy.mapError (·.report service)) := by
  obtain rfl := h.most.eq_maxArity
  have hgreediest := service.greediest_eq.symm
  unfold selectGreedy
  -- none of them, one, or several
  cases hlist : service.greediest with
  | nil => exact absurd hlist (greediest_ne_nil h.most.eligible_ne_nil)
  | cons c rest =>
    rw [hlist] at hgreediest
    cases rest with
    | nil => exact .greedy h hgreediest
    | cons d rest =>
      have htied := Selects.tied h (by rw [hgreediest]; simp)
      rw [hgreediest] at htied
      exact htied

/-- The report on several marked constructors has a label for each that has a place. -/
theorem report_severalMarked (service : Service) :
    (Rejection.severalMarked service.eligibleMarked).report service =
      service.severalMarkedReport := by
  simp only [Rejection.report, severalMarkedReport, List.map_filterMap]
  rfl

/-- **The selection follows the rules.** -/
theorem selects_selection (service : Service) (policy : MarkerPolicy) :
    Selects service policy (service.selection policy) := by
  by_cases hnone : service.eligible = []
  · rw [selection, select_of_nil hnone]
    exact .noneQualifies hnone
  · have hmost := isMaxArity_maxArity hnone
    -- no marker, one, or several, and only in the last case does the policy matter
    cases hmarked : service.eligibleMarked with
    | nil =>
      have harity : service.GoesByArity policy service.maxArity := ⟨Or.inl hmarked, hmost⟩
      rw [selection, select_of_goesByArity harity]
      exact selects_selectGreedy harity
    | cons c rest =>
      cases rest with
      | nil =>
        rw [selection, select_of_sole hmarked]
        exact .marked hmarked
      | cons d rest =>
        have hseveral : 2 ≤ service.eligibleMarked.length := by simp [hmarked]
        cases policy with
        | strict =>
          rw [selection, select_of_several hseveral, Except.mapError, report_severalMarked]
          exact .severalMarked hseveral rfl
        | fallThrough =>
          have harity : service.GoesByArity .fallThrough service.maxArity :=
            ⟨Or.inr ⟨hseveral, rfl⟩, hmost⟩
          rw [selection, select_of_goesByArity harity]
          exact selects_selectGreedy harity

/-- **The rules leave nothing open.** -/
theorem Selects.selection_eq {outcome : Except Diagnostic Selection}
    (h : Selects service policy outcome) : service.selection policy = outcome := by
  cases h with
  | noneQualifies none =>
    rw [selection, select_of_nil none]
    rfl
  | marked sole =>
    rw [selection, select_of_sole sole]
    rfl
  | severalMarked several strict =>
    rw [strict, selection, select_of_several several, Except.mapError, report_severalMarked]
  | greedy most sole =>
    obtain rfl := most.most.eq_maxArity
    rw [selection, select_of_goesByArity most, selectGreedy, greediest_eq, sole]
    rfl
  | tied most several =>
    obtain rfl := most.most.eq_maxArity
    obtain ⟨c, d, rest, hgreediest⟩ := exists_cons_cons_of_two_le several
    rw [hgreediest, selection, select_of_goesByArity most, selectGreedy, greediest_eq, hgreediest]
    rfl

/-- So the rules and the selection say the same. -/
theorem selection_eq_iff {outcome : Except Diagnostic Selection} :
    service.selection policy = outcome ↔ Selects service policy outcome :=
  ⟨fun h => h ▸ service.selects_selection policy, Selects.selection_eq⟩

/-! ## §4 — what an outcome tells -/

/-- An outcome that tells which rule decided: each kind of outcome comes about exactly in the case
that the rule for it is about, and holds what the rule says. -/
structure FollowsRules (service : Service) (policy : MarkerPolicy)
    (outcome : Except Diagnostic Selection) : Prop where
  noneQualifies : ∀ d, outcome = .error d ∧ d.code = .noEligibleConstructor ↔
    service.eligible = [] ∧ d = service.noneQualifiesReport
  /-- The only marked constructor is taken, however many parameters it has. -/
  marked : ∀ c, outcome = .ok ⟨c, .marked⟩ ↔ service.eligibleMarked = [c]
  severalMarked : ∀ d, outcome = .error d ∧ d.code = .multipleInjectionConstructors ↔
    (2 ≤ service.eligibleMarked.length ∧ policy = .strict) ∧ d = service.severalMarkedReport
  greedy : ∀ c, outcome = .ok ⟨c, .greedy⟩ ↔
    ∃ arity, service.GoesByArity policy arity ∧ service.ofArity arity = [c]
  tied : ∀ d, outcome = .error d ∧ d.code = .ambiguousConstructor ↔
    ∃ arity, service.GoesByArity policy arity ∧ 2 ≤ (service.ofArity arity).length ∧
      d = service.tiedReport arity (service.ofArity arity).length

/-- **Each outcome tells its rule.** The codes of the reports tell the three refusals apart, and the
reasons the two selections. -/
theorem followsRules_selection (service : Service) (policy : MarkerPolicy) :
    FollowsRules service policy (service.selection policy) where
  noneQualifies d := by
    rw [selection_eq_iff]
    constructor
    · rintro ⟨h, hcode⟩
      cases h with
      | noneQualifies none => exact ⟨none, rfl⟩
      | severalMarked => simp [severalMarkedReport] at hcode
      | tied => simp [tiedReport] at hcode
    · rintro ⟨hnone, rfl⟩
      exact ⟨.noneQualifies hnone, rfl⟩
  marked c := by
    rw [selection_eq_iff]
    constructor
    · intro h
      cases h with
      | marked sole => exact sole
    · exact Selects.marked
  severalMarked d := by
    rw [selection_eq_iff]
    constructor
    · rintro ⟨h, hcode⟩
      cases h with
      | noneQualifies => simp [noneQualifiesReport] at hcode
      | severalMarked several strict => exact ⟨⟨several, strict⟩, rfl⟩
      | tied => simp [tiedReport] at hcode
    · rintro ⟨⟨hseveral, hstrict⟩, rfl⟩
      exact ⟨.severalMarked hseveral hstrict, rfl⟩
  greedy c := by
    rw [selection_eq_iff]
    constructor
    · intro h
      cases h with
      | greedy most sole => exact ⟨_, most, sole⟩
    · rintro ⟨arity, hmost, hsole⟩
      exact .greedy hmost hsole
  tied d := by
    rw [selection_eq_iff]
    constructor
    · rintro ⟨h, hcode⟩
      cases h with
      | noneQualifies => simp [noneQualifiesReport] at hcode
      | severalMarked => simp [severalMarkedReport] at hcode
      | tied most several => exact ⟨_, most, several, rfl⟩
    · rintro ⟨arity, hmost, hseveral, rfl⟩
      exact ⟨.tied hmost hseveral, rfl⟩

/-! ## §5 — other constructors -/

/-- Outcomes that are the same, up to the order of the labels at several marked constructors. -/
inductive SameUpToLabels : Except Diagnostic Selection → Except Diagnostic Selection → Prop where
  | same (outcome : Except Diagnostic Selection) : SameUpToLabels outcome outcome
  | relabelled {d : Diagnostic} {labels : List Label}
      (code : d.code = .multipleInjectionConstructors) (perm : labels.Perm d.labels) :
      SameUpToLabels (.error d) (.error { d with labels })

/-- The service with these constructors instead of its own. -/
def withConstructors (service : Service) (constructors : List Constructor) : Service :=
  { service with constructors }

variable {constructors : List Constructor} {arity : Nat}

/-- The same constructors in another order have the same marked ones, in another order. -/
theorem eligibleMarked_perm
    (h : (service.withConstructors constructors).eligible.Perm service.eligible) :
    (service.withConstructors constructors).eligibleMarked.Perm service.eligibleMarked :=
  h.filter _

/-- So it is with those that have a certain number of parameters. -/
theorem ofArity_perm
    (h : (service.withConstructors constructors).eligible.Perm service.eligible) :
    ((service.withConstructors constructors).ofArity arity).Perm (service.ofArity arity) :=
  h.filter _

/-- Whether the number of parameters decides, and what the greatest is, does not depend on the
order. -/
theorem GoesByArity.reorder (hmost : service.GoesByArity policy arity)
    (h : (service.withConstructors constructors).eligible.Perm service.eligible) :
    (service.withConstructors constructors).GoesByArity policy arity := by
  have hmarked := eligibleMarked_perm h
  -- the markers are counted, and the greatest number is that of a member
  refine ⟨?_, ?_, ?_⟩
  · rcases hmost.unmarked with hnil | ⟨hseveral, hpolicy⟩
    · rw [hnil] at hmarked
      exact Or.inl hmarked.eq_nil
    · rw [← hmarked.length_eq] at hseveral
      exact Or.inr ⟨hseveral, hpolicy⟩
  · obtain ⟨c, hc, hcarity⟩ := hmost.most.attained
    exact ⟨c, h.mem_iff.mpr hc, hcarity⟩
  · intro c hc
    exact hmost.most.bound c (h.mem_iff.mp hc)

/-- **The rules do not look at the order of the eligible constructors.** One case for each rule:
its condition counts constructors, and only the report on several marked ones lists them. -/
theorem Selects.reorder {outcome : Except Diagnostic Selection}
    (hselects : Selects service policy outcome)
    (h : (service.withConstructors constructors).eligible.Perm service.eligible) :
    ∃ outcome', Selects (service.withConstructors constructors) policy outcome' ∧
      SameUpToLabels outcome outcome' := by
  have hmarked := eligibleMarked_perm h
  cases hselects with
  | noneQualifies none =>
    rw [none] at h
    exact ⟨_, .noneQualifies h.eq_nil, .same _⟩
  | marked sole =>
    rw [sole] at hmarked
    exact ⟨_, .marked (List.perm_singleton.mp hmarked), .same _⟩
  | severalMarked several strict =>
    refine ⟨_, .severalMarked (hmarked.length_eq.symm ▸ several) strict, ?_⟩
    have hreport : (service.withConstructors constructors).severalMarkedReport =
        { service.severalMarkedReport with
          labels := (service.withConstructors constructors).severalMarkedReport.labels } := by
      simp only [severalMarkedReport, hmarked.length_eq]
      rfl
    rw [hreport]
    exact .relabelled rfl ((hmarked.filterMap _).map _)
  | @greedy arity _ most sole =>
    have hsole : (Service.ofArity _ arity).Perm _ := ofArity_perm h
    rw [sole] at hsole
    exact ⟨_, .greedy (most.reorder h) (List.perm_singleton.mp hsole), .same _⟩
  | @tied arity most several =>
    have hlength : (Service.ofArity _ arity).length = _ := (ofArity_perm h).length_eq
    refine ⟨_, .tied (most.reorder h) (hlength.symm ▸ several), ?_⟩
    rw [hlength]
    exact .same _

/-- Constructors in another order lead to the same outcome, up to the order of labels. -/
theorem selection_reorder (hperm : constructors.Perm service.constructors) :
    SameUpToLabels (service.selection policy)
      ((service.withConstructors constructors).selection policy) := by
  have h : (service.withConstructors constructors).eligible.Perm service.eligible :=
    hperm.filter _
  obtain ⟨outcome, houtcome, hsame⟩ := (service.selects_selection policy).reorder h
  rw [houtcome.selection_eq]
  exact hsame

/-- The selection sees nothing of constructors that are not eligible. -/
theorem selection_congr
    (h : (service.withConstructors constructors).eligible = service.eligible) :
    (service.withConstructors constructors).selection policy = service.selection policy := by
  have hqualifying : (service.withConstructors constructors).qualifying = service.qualifying := by
    rw [qualifying_eq, qualifying_eq, h]
  have hmarked : (service.withConstructors constructors).marked = service.marked := by
    rw [marked, marked, hqualifying]
  have hmax : (service.withConstructors constructors).maxArity = service.maxArity := by
    rw [maxArity, maxArity, hqualifying]
  have hgreediest : (service.withConstructors constructors).greediest = service.greediest := by
    rw [greediest, greediest, hqualifying, hmax]
  have hselect : (service.withConstructors constructors).select policy = service.select policy := by
    unfold select selectGreedy
    rw [hqualifying, hmarked, hmax, hgreediest]
  -- the reports name the class and its place, and none of its constructors
  have hreport : ∀ rejection : Rejection,
      rejection.report (service.withConstructors constructors) = rejection.report service := by
    intro rejection
    cases rejection <;> rfl
  simp only [selection, hselect, hreport]

end Service

/-- **Selection is exactly its rules.** Each kind of outcome comes about in the case that its rule
is about and in no other. So constructors that are not eligible can come, go and change without
changing the outcome; and constructors in another order give the same outcome, but that the labels
at several marked ones stand in another order. -/
theorem selection_by_rules (service : Service) (policy : MarkerPolicy) :
    service.FollowsRules policy (service.selection policy) ∧
    (∀ constructors : List Constructor,
      (service.withConstructors constructors).eligible = service.eligible →
        (service.withConstructors constructors).selection policy = service.selection policy) ∧
    ∀ constructors : List Constructor, constructors.Perm service.constructors →
      Service.SameUpToLabels (service.selection policy)
        ((service.withConstructors constructors).selection policy) :=
  ⟨service.followsRules_selection policy, fun _ => Service.selection_congr,
    fun _ => Service.selection_reorder⟩

/-- Two marked constructors the other way round, and a private one between them. -/
theorem selection_by_rules_swapped :
    let bare : Constructor := { isMarked := true, location := some ⟨"Qux.cs", 5, 5⟩ }
    let full : Constructor :=
      { parameters := [⟨"IA"⟩], isMarked := true, location := some ⟨"Qux.cs", 6, 5⟩ }
    let hidden : Constructor := { accessibility := .«private», isMarked := true }
    let service : Service := ⟨⟨"Qux"⟩, ⟨"IQux"⟩, .transient, [bare, full], none⟩
    (service.withConstructors [bare, hidden, full]).eligible = service.eligible ∧
      (service.withConstructors [bare, hidden, full]).selection .strict =
        service.selection .strict ∧
      [full, bare].Perm service.constructors ∧
      Service.SameUpToLabels (service.selection .strict)
        ((service.withConstructors [full, bare]).selection .strict) ∧
      (service.withConstructors [full, bare]).selection .strict ≠ service.selection .strict := by
  intro bare full hidden service
  have heligible : (service.withConstructors [bare, hidden, full]).eligible = service.eligible :=
    rfl
  have hperm : [full, bare].Perm service.constructors := .swap bare full []
  refine ⟨heligible, (selection_by_rules service .strict).2.1 _ heligible, hperm,
    (selection_by_rules service .strict).2.2 _ hperm, ?_⟩
  decide

end Registrar
