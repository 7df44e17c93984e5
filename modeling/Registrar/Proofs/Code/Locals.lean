import Registrar.Proofs.Code.Faithful
import Registrar.Proofs.Code.Mangling
import Registrar.Proofs.Code.Naming

/-!
# The locals of singletons

Each singleton has a local of its own in the registration routine, also where the interfaces of two
come to the same text or one comes to the numbered name of another. It is declared on one line and
registered on the next. The routine is written in one session, so its locals are the names that this
session gives.

* `named` : descriptors with the locals that their statements use.
* `Writer.Session.eq_run` : a session in which a script is written.
* `localNames_registrationsScript` : the names that are asked for are the locals.
* `Writer.Session.forall_given` : what holds of bases with and without a number holds of names.
* `registrations_locals` : the locals of the routine.
-/

namespace Registrar.Code

/-- Descriptors, each with the local name that is free when its statements are written. -/
def named (names : Names) : List Descriptor → List (Descriptor × String)
  | [] => []
  | d :: ds => (d, localName names d) :: named (namesAfter names d) ds

/-- The locals that are declared: those of singletons. -/
def declared (entries : List (Descriptor × String)) : List String :=
  (entries.filter (·.1.lifetime.isEager)).map (·.2)

theorem named_fst (names : Names) (ds : List Descriptor) : (named names ds).map (·.1) = ds := by
  induction ds generalizing names with
  | nil => rfl
  | cons d ds ih => rw [named, List.map_cons, ih]

/-- The lines for descriptors are the statements of each with its name. -/
theorem bodyLines_eq (names : Names) (ds : List Descriptor) :
    bodyLines names ds = (named names ds).flatMap fun entry => statements entry.2 entry.1 := by
  induction ds generalizing names with
  | nil => rfl
  | cons d ds ih => rw [bodyLines, named, List.flatMap_cons, ih]

/-- A singleton declares its local in front of those of the descriptors after it. -/
theorem declared_cons (names : Names) (d : Descriptor) (ds : List Descriptor) :
    declared (named names (d :: ds)) =
      if d.lifetime.isEager then localName names d :: declared (named (namesAfter names d) ds)
      else declared (named (namesAfter names d) ds) := by
  rw [named, declared, List.filter_cons]
  split <;> rfl

/-! ## §1 — scripts as sessions -/

namespace Writer

/-- The local names that a script is given, in order. -/
def localNames (w : Writer) : List Step → List String
  | [] => []
  | s :: script => (w.localName? s).toList ++ (w.step s).1.localNames script

/-- A script that is continued is given the names of its first part, and then those that the writer
gives from there on. -/
theorem localNames_append (w : Writer) (a b : List Step) :
    w.localNames (a ++ b) = w.localNames a ++ (w.run a).1.localNames b := by
  induction a generalizing w with
  | nil => rfl
  | cons s a ih =>
    show _ ++ (w.step s).1.localNames (a ++ b) = (_ ++ (w.step s).1.localNames a) ++ _
    rw [ih, List.append_assoc]
    rfl

/-- A script is given as many names as it asks for. -/
theorem length_localNames (w : Writer) (script : List Step) :
    (w.localNames script).length = (script.map Request.step).countP (·.asksName) := by
  induction script generalizing w with
  | nil => rfl
  | cons s script ih =>
    have hfirst : (w.localName? s).toList.length = if (Request.step s).asksName then 1 else 0 := by
      cases s <;> rfl
    rw [localNames, List.length_append, ih, hfirst, List.map_cons, List.countP_cons, Nat.add_comm]

namespace Session

variable {counting : Counting} {session after : Session} {script : List Step}

/-- **A session in which a script is written** does what the script does. Induction on the script. -/
theorem eq_run (h : (script.map .step).foldlM (serve counting) session = some after) :
    after = { writer := (session.writer.run script).1
              text := session.text ++ (session.writer.run script).2
              given := session.given ++ session.writer.localNames script } := by
  induction script generalizing session with
  | nil =>
    obtain rfl := Option.some.inj h
    simp [run, localNames]
  | cons s script ih =>
    obtain ⟨next, hserve, hmore⟩ := foldlM_cons_eq_some_iff.mp h
    obtain ⟨-, rfl⟩ := serve_step_eq_some_iff.mp hserve
    rw [ih hmore]
    simp [run, localNames]

/-- **What holds of bases and of their numbered names holds of all names** that a checked counter
gives. Induction on the requests. -/
theorem forall_given {P : String → Prop} {requests : List Request}
    (h : requests.foldlM (serve .checked) session = some after)
    (hasked : ∀ base lines, .step (.withLocal base lines) ∈ requests →
      P base ∧ ∀ n : Nat, P (Names.numbered base n))
    (hgiven : ∀ name ∈ session.given, P name) : ∀ name ∈ after.given, P name := by
  induction requests generalizing session with
  | nil =>
    obtain rfl := Option.some.inj h
    exact hgiven
  | cons request requests ih =>
    obtain ⟨next, hserve, hmore⟩ := foldlM_cons_eq_some_iff.mp h
    refine ih hmore (fun base lines hmem => hasked base lines (List.mem_cons_of_mem _ hmem)) ?_
    cases request with
    | takeText =>
      obtain rfl := Option.some.inj hserve
      exact hgiven
    | step s =>
      obtain ⟨hstuck, rfl⟩ := serve_step_eq_some_iff.mp hserve
      intro name hname
      rcases List.mem_append.mp hname with hold | hnew
      · exact hgiven name hold
      · obtain ⟨base, lines, rfl, hfresh⟩ :=
          exists_of_localName? (Option.mem_toList.mp hnew) hstuck
        obtain ⟨hbase, hnumbered⟩ := hasked base lines List.mem_cons_self
        -- the counter gives the base, or a number up to its greatest value
        obtain ⟨steps, hsteps, rfl, -, -⟩ := Names.fresh?_eq_some_iff.mp hfresh
        rw [Counting.limit] at hsteps
        cases steps with
        | zero => exact hbase
        | succ steps =>
          rw [Names.candidate_of_lt (by omega)]
          exact hnumbered _

end Session

end Writer

/-! ## §2 — the session of the routine -/

/-- The session in which the registration routine is written, if the writer comes through it. -/
def registrationsSession? (counting : Counting) (ds : List Descriptor) (options : Options) :
    Option Writer.Session :=
  Writer.Session.serveAll counting ((registrationsScript ds options).map .step)

/-- A registration asks for a name if it is that of a singleton. -/
theorem localName?_registration (w : Writer) (d : Descriptor) :
    w.localName? (registration d) =
      if d.lifetime.isEager then some (localName w.names d) else none := by
  unfold registration
  split <;> simp_all [Writer.localName?, Lifetime.isEager, localName]

/-- Registrations are given the locals of their singletons. Induction on the descriptors. -/
theorem localNames_registrations (w : Writer) (ds : List Descriptor) :
    w.localNames (ds.map registration) = declared (named w.names ds) := by
  induction ds generalizing w with
  | nil => rfl
  | cons d ds ih =>
    show (w.localName? (registration d)).toList ++
      (w.step (registration d)).1.localNames (ds.map registration) = _
    -- a name is given, and taken, for a singleton only
    rw [ih, localName?_registration, declared_cons, step_registration]
    split <;> rfl

/-- **The names that the routine asks for are the locals of its singletons.** -/
theorem localNames_registrationsScript (ds : List Descriptor) (options : Options) :
    ({} : Writer).localNames (registrationsScript ds options) =
      declared (named {} (ds.filter (·.isWellFormed))) := by
  rw [registrationsScript, Writer.localNames_append, Writer.localNames_append,
    localNames_registrations]
  -- no name is asked for before the registrations, nor after them
  show [] ++ declared (named (opened options).1.names _) ++ [] = _
  rw [opened_names, List.nil_append, List.append_nil]

variable {counting : Counting} {ds : List Descriptor} {options : Options}
  {session : Writer.Session}

/-- Only registrations ask for names. -/
theorem exists_of_mem_registrationsScript {base : String} {lines : String → List String}
    (h : Step.withLocal base lines ∈ registrationsScript ds options) :
    ∃ d : Descriptor, base = "instance_" ++ mangle d.interface.text := by
  have hmem : Step.withLocal base lines ∈ (ds.filter (·.isWellFormed)).map registration := by
    simpa [registrationsScript] using h
  obtain ⟨d, -, hd⟩ := List.mem_map.mp hmem
  refine ⟨d, ?_⟩
  unfold registration at hd
  split at hd
  · exact absurd hd (by simp)
  · exact absurd hd (by simp)
  · exact (Step.withLocal.inj hd).1.symm

/-- The writer comes through the routine as long as it has fewer singletons than a counter has
values. -/
theorem exists_registrationsSession?
    (h : (declared (named {} (ds.filter (·.isWellFormed)))).length < 2147483648) :
    ∃ session, registrationsSession? counting ds options = some session := by
  refine Writer.Session.exists_foldlM_of_lt Writer.Session.accounted_start ?_
  rw [← localNames_registrationsScript ds options, Writer.length_localNames] at h
  simpa using h

/-- **The session of the routine writes its text and gives its locals.** -/
theorem registrationsSession?_eq_some (h : registrationsSession? counting ds options = some session) :
    Line.renderAll session.text = (registrations ds options).text ∧
      session.given = declared (named {} (ds.filter (·.isWellFormed))) := by
  obtain rfl := Writer.Session.eq_run h
  refine ⟨rfl, ?_⟩
  rw [← localNames_registrationsScript ds options]
  exact List.nil_append _

/-! ## §3 — what locals look like -/

/-- A local for an interface, with or without a number: the number only adds to the word. -/
theorem exists_part (interface : String) :
    let base := "instance_" ++ mangle interface
    (∃ part, base = "instance_" ++ part ∧ part ≠ "" ∧ IsWord part) ∧
      ∀ n : Nat, ∃ part, Names.numbered base n = "instance_" ++ part ∧ part ≠ "" ∧ IsWord part := by
  have hmangle := isTidy_mangle interface
  -- without a number the part is the word of the interface
  refine ⟨⟨_, rfl, hmangle.ne_empty, hmangle.word⟩, fun n => ?_⟩
  refine ⟨mangle interface ++ "_" ++ toString n, ?_, ?_, ?_⟩
  · rw [Names.numbered, String.append_assoc, String.append_assoc, String.append_assoc]
    rfl
  · simp [hmangle.ne_empty]
  · exact (hmangle.word.append (by decide)).append (isWord_toString n)

/-- A local is made of `instance_` and a label, whatever is taken. -/
theorem localName_eq (names : Names) (d : Descriptor) :
    ∃ part, localName names d = "instance_" ++ part ∧ part ≠ "" ∧ IsLabel part := by
  have hmangle := isTidy_mangle d.interface.text
  have hline : IsWord "_" := by decide
  -- which names are taken is not known, so the number may be negative
  rcases Names.fresh_cases names ("instance_" ++ mangle d.interface.text) with hbase | ⟨n, hnumber⟩
  · exact ⟨_, hbase, hmangle.ne_empty, hmangle.word.isLabel⟩
  · refine ⟨mangle d.interface.text ++ "_" ++ toString n, ?_, ?_, ?_⟩
    · rw [localName, hnumber, Names.numbered, String.append_assoc, String.append_assoc,
        String.append_assoc]
    · simp [hmangle.ne_empty]
    · exact (hmangle.word.append hline).isLabel.append (isLabel_toString n)

/-- With a checked counter each local is made of `instance_` and a word. -/
theorem exists_word_part (h : registrationsSession? .checked ds options = some session)
    {name : String} (hname : name ∈ session.given) :
    ∃ part, name = "instance_" ++ part ∧ part ≠ "" ∧ IsWord part := by
  refine Writer.Session.forall_given
    (P := fun name => ∃ part, name = "instance_" ++ part ∧ part ≠ "" ∧ IsWord part) h
    (fun base lines hmem => ?_) (fun name hmem => absurd hmem List.not_mem_nil) name hname
  obtain ⟨s, hs, hstep⟩ := List.mem_map.mp hmem
  obtain rfl := Writer.Request.step.inj hstep
  obtain ⟨d, rfl⟩ := exists_of_mem_registrationsScript hs
  exact exists_part d.interface.text

/-- A local is the name that is free for a descriptor. -/
theorem exists_of_mem_declared {names : Names} {name : String}
    (h : name ∈ declared (named names ds)) : ∃ names' d, name = localName names' d := by
  induction ds generalizing names with
  | nil => exact absurd h List.not_mem_nil
  | cons d ds ih =>
    rw [declared_cons] at h
    split at h
    · rcases List.mem_cons.mp h with rfl | hmem
      · exact ⟨names, d, rfl⟩
      · exact ih hmem
    · exact ih h

example :
    let singleton (interface : String) : Descriptor := ⟨⟨"Foo"⟩, ⟨interface⟩, .singleton, []⟩
    (registrationsSession? .checked (["IFoo", "IFoo_2", "IFoo"].map singleton) {}).map (·.given) =
      some ["instance_IFoo", "instance_IFoo_2", "instance_IFoo_3"] := by decide

end Registrar.Code
