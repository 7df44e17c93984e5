import Registrar.Code.Writer
import Registrar.Proofs.Code.Searching

/-!
# Names over a whole session

What a writer is asked for between two names does not matter: at any time the names that are taken
are those that it gave. So each name that it gives is the first candidate that it did not give
before. This is the base itself or has the least number from 2 on, up to the greatest value of the
counter. A base for which all these were given has been given about 2^31 names, and only there it
matters whether the counter is checked.

* `UsedUp`, `FirstFree`, `FreeAfterOverflow` : what a name is, in terms of those given before.
* `Session` : a writer with the names that it has given.
* `Session.Accounted` : the invariant; `Session.Accounted.serve` says that a request keeps it and
  `Session.accounted_of_serveAll` that all requests do.
* `Session.exists_foldlM_of_lt` : nothing goes wrong as long as the counter lasts.
* `session_first_free` : the names of a session.
-/

namespace Registrar.Code

/-! ## §1 — the next name -/

/-- The base was given, and with each number that a checked counter comes to. -/
def UsedUp (given : List String) (base : String) : Prop :=
  base ∈ given ∧ ∀ n : Nat, 2 ≤ n → n < 2147483648 → Names.numbered base n ∈ given

/-- The name is the base if that is new, and otherwise the base with the least number from 2 on that
makes it new. -/
structure FirstFree (given : List String) (base name : String) : Prop where
  of_new : base ∉ given → name = base
  of_given : base ∈ given → ∃ n : Nat, 2 ≤ n ∧ n < 2147483648 ∧ name = Names.numbered base n ∧
    name ∉ given ∧ ∀ m : Nat, 2 ≤ m → m < n → Names.numbered base m ∈ given

/-- The name is the base with the least number that makes it new among those that a counter comes to
after its greatest value. -/
def FreeAfterOverflow (given : List String) (base name : String) : Prop :=
  ∃ n : Int, -2147483648 ≤ n ∧ n ≤ 1 ∧ name = Names.numbered base n ∧ name ∉ given ∧
    ∀ m : Int, -2147483648 ≤ m → m < n → Names.numbered base m ∈ given

namespace UsedUp

variable {given : List String} {base : String} {steps : Nat}

/-- The candidates up to the greatest value are the base and its numbers. -/
theorem iff_candidates : UsedUp given base ↔
    ∀ steps ≤ Counting.checked.limit, Names.candidate base steps ∈ given := by
  rw [Counting.limit]
  constructor
  · rintro ⟨hbase, hnumbers⟩ steps hsteps
    cases steps with
    | zero => exact hbase
    | succ steps =>
      rw [Names.candidate_of_lt (by omega)]
      exact hnumbers (steps + 2) (by omega) (by omega)
  · intro h
    refine ⟨h 0 (Nat.zero_le _), fun n hlow hhigh => ?_⟩
    obtain ⟨steps, rfl⟩ := Nat.exists_eq_add_of_le' hlow
    rw [← Names.candidate_of_lt hhigh]
    exact h (steps + 1) (by omega)

/-- A base is used up by no fewer names than the counter has values. -/
theorem le_length (h : UsedUp given base) : 2147483648 ≤ given.length + 1 := by
  have hall := iff_candidates.mp h
  rw [Counting.limit] at hall
  have hle : 2147483647 ≤ (Names.mk given).taken.length :=
    Names.le_length_taken (by omega) fun steps hsteps => hall steps (by omega)
  have hlength : (Names.mk given).taken.length = given.length := rfl
  omega

end UsedUp

namespace Names

variable {names : Names} {counting : Counting} {given : List String} {base name : String}

theorem fresh?_checked_eq_none_iff (hgiven : ∀ name, name ∈ names.taken ↔ name ∈ given) :
    names.fresh? .checked base = none ↔ UsedUp given base := by
  rw [fresh?_eq_none_iff, UsedUp.iff_candidates]
  simp only [hgiven]

/-- **What is not used up gets the first free name**, whether the counter is checked or not. -/
theorem exists_firstFree (hgiven : ∀ name, name ∈ names.taken ↔ name ∈ given)
    (h : ¬ UsedUp given base) :
    ∃ name, names.fresh? counting base = some name ∧ FirstFree given base name := by
  obtain ⟨name, hname⟩ :=
    Option.ne_none_iff_exists'.mp ((fresh?_checked_eq_none_iff hgiven).not.mpr h)
  refine ⟨name, fresh?_of_checked hname, ?_⟩
  obtain ⟨steps, hsteps, rfl, hfree, hbefore⟩ := fresh?_eq_some_iff.mp hname
  simp only [hgiven] at hfree hbefore
  rw [Counting.limit] at hsteps
  cases steps with
  | zero => exact ⟨fun _ => rfl, fun hbase => absurd hbase hfree⟩
  | succ steps =>
    -- the base is the first candidate that was passed over
    refine ⟨fun hbase => absurd (hbefore 0 (by omega)) hbase, fun _ => ?_⟩
    refine ⟨steps + 2, by omega, by omega, candidate_of_lt (by omega), hfree, fun m hlow hhigh => ?_⟩
    obtain ⟨k, rfl⟩ := Nat.exists_eq_add_of_le' hlow
    rw [← candidate_of_lt (by omega)]
    exact hbefore (k + 1) (by omega)

/-- **What is used up gets a number from beyond the greatest value**, if the counter goes on there. -/
theorem fresh?_wrapping_eq_some_iff (hgiven : ∀ name, name ∈ names.taken ↔ name ∈ given)
    (h : UsedUp given base) :
    names.fresh? .wrapping base = some name ↔ FreeAfterOverflow given base name := by
  have hused := UsedUp.iff_candidates.mp h
  have hlimit : Counting.wrapping.limit = 4294967296 := rfl
  rw [Counting.limit] at hused
  simp only [fresh?_eq_some_iff, hgiven, hlimit]
  constructor
  · rintro ⟨steps, hsteps, rfl, hfree, hbefore⟩
    have hlow : 2147483648 ≤ steps + 1 := by
      by_contra hlt
      exact hfree (hused steps (by omega))
    rw [candidate_of_le hlow hsteps] at hfree ⊢
    refine ⟨_, by omega, by omega, rfl, hfree, fun m hm hlt => ?_⟩
    -- `m` is the number after so many steps
    have hmem := hbefore (m + 4294967296 - 1).toNat (by omega)
    rw [candidate_of_le (by omega) (by omega)] at hmem
    convert hmem using 2
    omega
  · rintro ⟨n, hlow, hhigh, rfl, hfree, hbefore⟩
    have hcandidate : candidate base (n + 4294967296 - 1).toNat = numbered base n := by
      rw [candidate_of_le (by omega) (by omega)]
      exact congrArg (numbered base) (by omega)
    refine ⟨(n + 4294967296 - 1).toNat, by omega, hcandidate.symm, hcandidate ▸ hfree, fun k hk => ?_⟩
    rcases Nat.lt_or_ge (k + 1) 2147483648 with hsmall | hlarge
    · exact hused k (by omega)
    · rw [candidate_of_le hlarge (by omega)]
      exact hbefore _ (by omega) (by omega)

end Names

namespace Writer

/-! ## §2 — sessions -/

/-- What can be asked of a writer. -/
inductive Request where
  /-- To take a step. -/
  | step (s : Step)
  /-- To hand out what it has written; it goes on with an empty text. -/
  | takeText

/-- The writer is asked for a local name. -/
def Request.asksName : Request → Bool
  | .step (.withLocal _ _) => true
  | _ => false

/-- The writer does not come through a step: the search for a name overflows, or does not end. -/
def isStuck (w : Writer) (counting : Counting) : Step → Bool
  | .withLocal base _ => (w.names.fresh? counting base).isNone
  | _ => false

/-- A writer, and what has come of it so far. -/
structure Session where
  writer : Writer := {}
  /-- What was written and not handed out yet. -/
  text : List Line := []
  /-- The local names that were given, in order. -/
  given : List String := []

namespace Session

/-- Serve one request. There is no session after a step that the writer does not come through. -/
def serve (counting : Counting) (session : Session) : Request → Option Session
  | .step s =>
    if session.writer.isStuck counting s then none
    else
      let (writer, lines) := session.writer.step s
      some
        { writer, text := session.text ++ lines
          given := session.given ++ (session.writer.localName? s).toList }
  | .takeText => some { session with text := [] }

/-- Serve requests one after the other, from a new writer on. -/
def serveAll (counting : Counting) (requests : List Request) : Option Session :=
  requests.foldlM (serve counting) {}

/-- What holds of a session: the names that are taken are those that were given, the last one
first, and no name was given twice. -/
structure Accounted (session : Session) : Prop where
  taken_eq : session.writer.names.taken = session.given.reverse
  nodup : session.given.Nodup

end Session

/-! ## §3 — one request more -/

variable {counting : Counting}

/-- **A step takes the name that it gives, and no other.** One case for each kind of step. -/
theorem taken_step (w : Writer) (s : Step) :
    (w.step s).1.names.taken = (w.localName? s).toList ++ w.names.taken := by
  cases s with
  | withLocal base lines => rfl
  | openContainer options =>
    rw [step]
    split <;> rfl
  | closeContainer =>
    rw [step]
    split <;> rfl
  | _ => rfl

/-- A step that gives a name asks for it, and the search for it comes to it. -/
theorem exists_of_localName? {w : Writer} {s : Step} {name : String}
    (h : w.localName? s = some name) (hstuck : w.isStuck counting s = false) :
    ∃ base lines, s = .withLocal base lines ∧ w.names.fresh? counting base = some name := by
  cases s with
  | withLocal base lines =>
    obtain rfl : w.names.fresh base = name := Option.some.inj h
    obtain ⟨name, hname⟩ := Option.isSome_iff_exists.mp (Option.isNone_eq_false_iff.mp hstuck)
    exact ⟨base, lines, rfl, by rw [Names.fresh_of_fresh? hname, hname]⟩
  | _ => exact nomatch h

namespace Session

variable {session after : Session} {s : Step} {request : Request} {requests : List Request}

/-- A step that is served is taken by the writer. -/
theorem serve_step_eq_some_iff : session.serve counting (.step s) = some after ↔
    session.writer.isStuck counting s = false ∧
      after = { writer := (session.writer.step s).1
                text := session.text ++ (session.writer.step s).2
                given := session.given ++ (session.writer.localName? s).toList } := by
  rw [serve]
  split
  · next hstuck => exact iff_of_false (by simp) fun ⟨hfree, _⟩ => by simp [hstuck] at hfree
  · next hstuck =>
    rw [Option.some.injEq, eq_comm]
    exact (and_iff_right (Bool.eq_false_iff.mpr hstuck)).symm

/-- A request for a name gives one name, and any other request gives none. -/
theorem length_given_serve (h : session.serve counting request = some after) :
    after.given.length = session.given.length + if request.asksName then 1 else 0 := by
  cases request with
  | takeText =>
    obtain rfl := Option.some.inj h
    rfl
  | step s =>
    obtain ⟨-, rfl⟩ := serve_step_eq_some_iff.mp h
    rw [List.length_append]
    cases s <;> rfl

namespace Accounted

theorem mem_taken_iff (h : session.Accounted) (name : String) :
    name ∈ session.writer.names.taken ↔ name ∈ session.given := by
  rw [h.taken_eq, List.mem_reverse]

theorem step (h : session.Accounted) (hserve : session.serve counting (.step s) = some after) :
    after.Accounted := by
  obtain ⟨hstuck, rfl⟩ := serve_step_eq_some_iff.mp hserve
  have htaken := taken_step session.writer s
  cases hname : session.writer.localName? s with
  | none =>
    rw [hname] at htaken
    refine ⟨?_, ?_⟩
    · simpa [h.taken_eq] using htaken
    · simpa using h.nodup
  | some name =>
    rw [hname] at htaken
    obtain ⟨base, lines, -, hfresh⟩ := exists_of_localName? hname hstuck
    -- a name that is given was not taken, so it was not given before
    have hnew : name ∉ session.given :=
      (h.mem_taken_iff name).not.mp (Names.not_mem_of_fresh? hfresh)
    refine ⟨?_, ?_⟩
    · simpa [h.taken_eq] using htaken
    · show (session.given ++ [name]).Nodup
      rw [← List.concat_eq_append]
      exact h.nodup.concat hnew

/-- **A request keeps the invariant.** -/
theorem serve (h : session.Accounted) (hserve : session.serve counting request = some after) :
    after.Accounted := by
  cases request with
  | step s => exact h.step hserve
  | takeText =>
    obtain rfl := Option.some.inj hserve
    exact ⟨h.taken_eq, h.nodup⟩

/-- A request is served as long as fewer names were given than a checked counter has values. -/
theorem exists_serve_of_lt (h : session.Accounted) (request : Request)
    (hlength : session.given.length < 2147483647) :
    ∃ after, session.serve counting request = some after := by
  cases request with
  | takeText => exact ⟨_, rfl⟩
  | step s =>
    have hstuck : session.writer.isStuck counting s = false := by
      cases s with
      | withLocal base lines =>
        have hnot : ¬ UsedUp session.given base := fun hused => by
          have hle := hused.le_length
          omega
        obtain ⟨name, hname, -⟩ := Names.exists_firstFree h.mem_taken_iff hnot
        rw [isStuck, hname, Option.isNone_some]
      | _ => rfl
    exact ⟨_, serve_step_eq_some_iff.mpr ⟨hstuck, rfl⟩⟩

end Accounted

/-! ## §4 — all requests -/

/-- All requests were served, so the first one was, and then the others. -/
theorem foldlM_cons_eq_some_iff :
    (request :: requests).foldlM (serve counting) session = some after ↔
      ∃ next, session.serve counting request = some next ∧
        requests.foldlM (serve counting) next = some after := by
  rw [List.foldlM_cons]
  exact Option.bind_eq_some_iff

/-- The invariant is kept by all requests. Induction on them. -/
theorem Accounted.foldlM (h : session.Accounted)
    (hrun : requests.foldlM (Session.serve counting) session = some after) : after.Accounted := by
  induction requests generalizing session with
  | nil =>
    obtain rfl := Option.some.inj hrun
    exact h
  | cons request requests ih =>
    obtain ⟨next, hserve, hmore⟩ := foldlM_cons_eq_some_iff.mp hrun
    exact ih (h.serve hserve) hmore

theorem accounted_start : Accounted {} := ⟨rfl, List.nodup_nil⟩

theorem accounted_of_serveAll (h : serveAll counting requests = some session) :
    session.Accounted :=
  accounted_start.foldlM h

/-- Each request for a name gives one. Induction on the requests. -/
theorem length_given_foldlM (hrun : requests.foldlM (serve counting) session = some after) :
    after.given.length = session.given.length + requests.countP (·.asksName) := by
  induction requests generalizing session with
  | nil =>
    obtain rfl := Option.some.inj hrun
    rfl
  | cons request requests ih =>
    obtain ⟨next, hserve, hmore⟩ := foldlM_cons_eq_some_iff.mp hrun
    rw [ih hmore, length_given_serve hserve, List.countP_cons]
    omega

/-- All requests are served as long as they ask for fewer names than a counter has values. Induction
on the requests, of which those served so far have left the session with as many names. -/
theorem exists_foldlM_of_lt (h : session.Accounted)
    (hcount : session.given.length + requests.countP (·.asksName) < 2147483648) :
    ∃ after, requests.foldlM (serve counting) session = some after := by
  induction requests generalizing session with
  | nil => exact ⟨session, rfl⟩
  | cons request requests ih =>
    rw [List.countP_cons] at hcount
    have hserved : ∃ next, session.serve counting request = some next := by
      by_cases hasks : request.asksName = true
      · rw [if_pos hasks] at hcount
        exact h.exists_serve_of_lt request (by omega)
      · -- a request for anything else is always served
        cases request with
        | takeText => exact ⟨_, rfl⟩
        | step s =>
          refine ⟨_, serve_step_eq_some_iff.mpr ⟨?_, rfl⟩⟩
          cases s with
          | withLocal base lines => exact absurd rfl hasks
          | _ => rfl
    obtain ⟨next, hserve⟩ := hserved
    have hlength := length_given_serve hserve
    obtain ⟨after, hafter⟩ := ih (h.serve hserve) (by omega)
    exact ⟨after, foldlM_cons_eq_some_iff.mpr ⟨next, hserve, hafter⟩⟩

/-- What the next name comes to: the fresh name is given, and nothing else is changed. -/
theorem map_given_serve (session : Session) (base : String) (lines : String → List String) :
    (session.serve counting (.step (.withLocal base lines))).map (·.given) =
      (session.writer.names.fresh? counting base).map (session.given ++ [·]) := by
  cases hfresh : session.writer.names.fresh? counting base with
  | none =>
    have hstuck : session.writer.isStuck counting (.withLocal base lines) = true := by
      rw [isStuck, hfresh, Option.isNone_none]
    rw [serve, if_pos hstuck]
    rfl
  | some name =>
    have hstuck : session.writer.isStuck counting (.withLocal base lines) = false := by
      rw [isStuck, hfresh, Option.isNone_some]
    rw [serve_step_eq_some_iff.mpr ⟨hstuck, rfl⟩]
    show some (session.given ++ [session.writer.names.fresh base]) = _
    rw [Names.fresh_of_fresh? hfresh]
    rfl

end Session

example :
    (Session.serveAll .checked (["x_2", "x", "x", "x_2"].map fun base =>
      .step (.withLocal base fun _ => []))).map (·.given) =
      some ["x_2", "x", "x_3", "x_2_2"] := by decide

end Writer

end Registrar.Code
