import Registrar.Proofs.Code.LocalNames
import Registrar.Proofs.Code.Nesting

/-!
# The registration routine shows its descriptors

Between a beginning and an end that only the options decide, the routine has the statements of the
well-formed descriptors one after another. Lines are told apart by their line ends, and the
statements at the front tell the first descriptor; so routines are the same exactly when their
well-formed descriptors are.

* `run_registrations` : what is written for descriptors, and the state after it.
* `eq_of_bodyLines_eq` : the lines tell the descriptors.
* `registrations_faithful` : the whole file.
-/

namespace Registrar.Code

/-! ## §1 — the lines between beginning and end -/

/-- The lines for descriptors, given the names that are taken before. -/
def bodyLines (names : Names) : List Descriptor → List String
  | [] => []
  | d :: ds => statements (localName names d) d ++ bodyLines (namesAfter names d) ds

/-- Registrations change nothing but the names that are taken. Induction on the descriptors. -/
theorem run_registrations (w : Writer) (ds : List Descriptor) :
    w.run (ds.map registration) = ({ w with names := ds.foldl namesAfter w.names },
      (bodyLines w.names ds).map (⟨w.depth, ·⟩)) := by
  induction ds generalizing w with
  | nil => rfl
  | cons d ds ih =>
    rw [List.map_cons, Writer.run, step_registration]
    simp only [ih, bodyLines, List.map_append, List.foldl_cons]

/-- No line for descriptors goes over its end. Induction on the descriptors. -/
theorem not_mem_bodyLines {names : Names} {ds : List Descriptor} (h : ∀ d ∈ ds, d.IsPlain)
    {line : String} (hline : line ∈ bodyLines names ds) : '\n' ∉ line.toList := by
  induction ds generalizing names with
  | nil => exact absurd hline List.not_mem_nil
  | cons d ds ih =>
    obtain ⟨hd, hds⟩ := List.forall_mem_cons.mp h
    rcases List.mem_append.mp hline with hline | hline
    · exact not_mem_statements hd.isOneLine (isLabel_localName names d) hline
    · exact ih hds hline

theorem statements_ne_nil (name : String) (d : Descriptor) : statements name d ≠ [] := by
  unfold statements
  split <;> exact List.cons_ne_nil _ _

/-- **The lines tell the descriptors.** Induction on the descriptors: those that are read are the
same, so the names that they take are, too. -/
theorem eq_of_bodyLines_eq {names : Names} {ds ds' : List Descriptor} (h : ∀ d ∈ ds, d.IsPlain)
    (h' : ∀ d ∈ ds', d.IsPlain) (heq : bodyLines names ds = bodyLines names ds') : ds = ds' := by
  -- a local name has no blank, so a declaration is cut at the right one
  have hblank : ∀ (names : Names) (d : Descriptor), ' ' ∉ (localName names d).toList :=
    fun names d => not_mem_of_isLabel (isLabel_localName names d) (by decide) (by decide) (by decide)
  induction ds generalizing names ds' with
  | nil =>
    cases ds' with
    | nil => rfl
    | cons d' ds' => exact absurd (List.append_eq_nil_iff.mp heq.symm).1 (statements_ne_nil _ _)
  | cons d ds ih =>
    cases ds' with
    | nil => exact absurd (List.append_eq_nil_iff.mp heq).1 (statements_ne_nil _ _)
    | cons d' ds' =>
      obtain ⟨hd, hds⟩ := List.forall_mem_cons.mp h
      obtain ⟨hd', hds'⟩ := List.forall_mem_cons.mp h'
      -- the same descriptor takes the same name, so both lists go on with the same names
      obtain ⟨rfl, hmore⟩ := eq_of_statements_append_eq hd hd' (hblank _ _) (hblank _ _) heq
      exact congrArg (d :: ·) (ih hds hds' hmore)

/-! ## §2 — registrations among the lines -/

/-- A line that registers a service. -/
def isRegistration (line : String) : Bool :=
  Lifetime.all.any fun l => (keyword l ++ "<").toList.isPrefixOf line.toList

/-- A line that registers this service. -/
def Registers (d : Descriptor) (line : String) : Prop := ∃ argument, line = registerLine d argument

/-- The statement that registers a service is found by its method. -/
theorem isRegistration_registerLine (d : Descriptor) (a : String) :
    isRegistration (registerLine d a) = true := by
  have hall : d.lifetime ∈ Lifetime.all := by cases d.lifetime <;> decide
  refine List.any_eq_true.mpr ⟨d.lifetime, hall, ?_⟩
  rw [List.isPrefixOf_iff_prefix]
  exact ⟨d.interface.text.toList ++ (">(" ++ a ++ ");").toList, by simp [registerLine]⟩

theorem isRegistration_declareLine (name : String) (d : Descriptor) :
    isRegistration (declareLine name d) = false := by
  refine List.any_eq_false.mpr fun l _ => ?_
  cases l <;> simp [keyword, declareLine]

/-- Of the statements for a service, one registers it. -/
theorem filter_statements (name : String) (d : Descriptor) :
    ∃ a, (statements name d).filter isRegistration = [registerLine d a] := by
  unfold statements
  -- of a singleton the second statement, of any other service the only one
  split
  · exact ⟨name, by simp [isRegistration_declareLine, isRegistration_registerLine]⟩
  · exact ⟨"() => " ++ construction d, by simp [isRegistration_registerLine]⟩

/-- Each descriptor is registered once, in order. -/
theorem registers_bodyLines (names : Names) (ds : List Descriptor) :
    List.Forall₂ Registers ds ((bodyLines names ds).filter isRegistration) := by
  induction ds generalizing names with
  | nil => exact .nil
  | cons d ds ih =>
    obtain ⟨a, hfilter⟩ := filter_statements (localName names d) d
    rw [bodyLines, List.filter_append, hfilter]
    exact .cons ⟨a, rfl⟩ (ih _)

/-! ## §3 — the file -/

/-- Lines of one depth are told apart by their line ends. -/
theorem eq_of_renderAll_eq {depth : Nat} {lines lines' : List String}
    (h : ∀ line ∈ lines, '\n' ∉ line.toList) (h' : ∀ line ∈ lines', '\n' ∉ line.toList)
    (heq : Line.renderAll (lines.map (⟨depth, ·⟩)) = Line.renderAll (lines'.map (⟨depth, ·⟩))) :
    lines = lines' := by
  have hchars : ∀ {lines : List String}, (∀ line ∈ lines, '\n' ∉ line.toList) →
      ∀ line ∈ lines.map (Line.mk depth ·), '\n' ∉ line.chars := by
    intro lines hlines
    refine List.forall_mem_map.mpr fun line hline => ?_
    simp [Line.chars, not_mem_indentation, hlines line hline]
  have hlines := congrArg textLines heq
  rw [textLines_renderAll (hchars h), textLines_renderAll (hchars h'), List.map_map,
    List.map_map] at hlines
  -- indented alike, lines are the same only if what is on them is
  refine List.map_injective_iff.mpr (fun line line' hline => ?_) (List.append_cancel_right hlines)
  exact String.toList_inj.mp (List.append_cancel_left hline)

/-- What is written before the registrations, and the state there. -/
def opened (options : Options) : Writer × List Line :=
  ({} : Writer).run [.fileHeader options.usings [], .openContainer options,
    .openBlock "partial void RegisterGeneratedServices()"]

/-- The text before the registrations. -/
def opening (options : Options) : String := Line.renderAll (opened options).2

/-- How deep the registrations are indented. -/
def bodyDepth (options : Options) : Nat := (opened options).1.depth

/-- The text after the registrations. -/
def closing (options : Options) : String :=
  Line.renderAll ((opened options).1.run [.closeBlock, .closeContainer]).2

theorem opened_names (options : Options) : (opened options).1.names = {} := by
  simp only [opened, Writer.run, Writer.step]
  split <;> rfl

theorem lines_closing (w : Writer) (names : Names) :
    (({ w with names } : Writer).run [.closeBlock, .closeContainer]).2 =
      (w.run [.closeBlock, .closeContainer]).2 := by
  cases hopen : w.inNamespace <;> simp [Writer.run, Writer.step, hopen]

/-- The lines of the file that come from the descriptors. -/
def body (ds : List Descriptor) : List String := bodyLines {} (ds.filter (·.isWellFormed))

/-- **The routine is its descriptors between two fixed texts.** -/
theorem text_registrations (ds : List Descriptor) (options : Options) :
    (registrations ds options).text =
      opening options ++ Line.renderAll ((body ds).map (⟨bodyDepth options, ·⟩)) ++
        closing options := by
  have hrun : (({} : Writer).run (registrationsScript ds options)).2 =
      (opened options).2 ++ (body ds).map (⟨bodyDepth options, ·⟩) ++
        ((opened options).1.run [.closeBlock, .closeContainer]).2 := by
    rw [registrationsScript, Writer.run_append, Writer.run_append, run_registrations]
    show (opened options).2 ++ _ ++ _ = _
    -- the names that the body takes change nothing in the lines after it
    rw [lines_closing]
    show _ ++ (bodyLines (opened options).1.names _).map _ ++ _ = _
    -- and no name is taken before it
    rw [opened_names]
    rfl
  show Line.renderAll _ = _
  rw [hrun, renderAll_append, renderAll_append]
  rfl

/-- **The registration routine shows its descriptors.** -/
theorem registrations_faithful (options : Options) {ds ds' : List Descriptor}
    (h : ∀ d ∈ ds, d.IsPlain) (h' : ∀ d ∈ ds', d.IsPlain) :
    ((registrations ds options).text = (registrations ds' options).text ↔
        ds.filter (·.isWellFormed) = ds'.filter (·.isWellFormed)) ∧
      ∃ lines : List String,
        (registrations ds options).text = opening options ++
          Line.renderAll (lines.map (⟨bodyDepth options, ·⟩)) ++ closing options ∧
        (∀ line ∈ lines, '\n' ∉ line.toList) ∧
        List.Forall₂ Registers (ds.filter (·.isWellFormed)) (lines.filter isRegistration) := by
  have hplain : ∀ d ∈ ds.filter (·.isWellFormed), d.IsPlain :=
    fun d hd => h d (List.mem_filter.mp hd).1
  have hplain' : ∀ d ∈ ds'.filter (·.isWellFormed), d.IsPlain :=
    fun d hd => h' d (List.mem_filter.mp hd).1
  refine ⟨⟨?_, ?_⟩, body ds, text_registrations ds options, ?_, registers_bodyLines _ _⟩
  · intro htext
    rw [text_registrations, text_registrations] at htext
    have hbody := (String.append_right_inj _).mp ((String.append_left_inj _).mp htext)
    exact eq_of_bodyLines_eq hplain hplain'
      (eq_of_renderAll_eq (fun _ => not_mem_bodyLines hplain) (fun _ => not_mem_bodyLines hplain')
        hbody)
  · intro hfilter
    rw [text_registrations, text_registrations, body, body, hfilter]
  · exact fun line hline => not_mem_bodyLines hplain hline

/-- Two services of one interface can be told from the same two in the other order. -/
theorem registrations_faithful_order :
    let first : Descriptor := ⟨⟨"Game.Repo<A, B>"⟩, ⟨"IRepo"⟩, .singleton, [⟨"ILog"⟩, ⟨"IClock"⟩]⟩
    let second : Descriptor := ⟨⟨"Game.Cache"⟩, ⟨"IRepo"⟩, .transient, []⟩
    (∀ d ∈ [first, second], d.IsPlain) ∧ (∀ d ∈ [second, first], d.IsPlain) ∧
      (registrations [first, second] {}).text ≠ (registrations [second, first] {}).text := by
  refine ⟨by decide, by decide, fun htext => ?_⟩
  have hfilter := (registrations_faithful {} (by decide) (by decide)).1.mp htext
  exact absurd hfilter (by decide)

end Registrar.Code
