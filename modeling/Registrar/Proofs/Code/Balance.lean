import Registrar.Proofs.Code.Nesting
import Registrar.Proofs.Code.Returning

/-!
# Generated files are balanced

While the writer goes in and comes back, the lines that it writes open and close blocks. A script
that returns therefore leaves a text with balanced braces, each line of which is indented by as much
as there are blocks around it. All that is asked of what is put into the text is that it stays on
its line; every line starts with something that no option and no declaration decides.

* `nests_step`, `nests_run` : lines are nested as deep as the writer is.
* `isPlain_registrationsScript`, `isPlain_scopeLifecycleScript`, `isPlain_attributesScript` : what
  is put into the lines stays on them.
* `files_balanced` : all three files.
-/

namespace Registrar.Code

/-! ## §1 — from the writer to its lines -/

/-- What a step is given to write stays on its line and is no brace. -/
def Step.IsPlain : Step → Prop
  | .line text => IsContent text
  | .blank | .closeBlock | .closeContainer => True
  -- a level that no brace shows
  | .indent | .dedent => False
  | .openBlock heading => IsContent heading
  | .fileHeader usings extra => ∀ name ∈ usings ++ extra, '\n' ∉ name.toList
  | .openContainer options =>
    IsContent options.containerHeading ∧
      ∀ name ∈ options.openNamespace?, IsContent ("namespace " ++ name)
  | .withLocal base lines =>
    IsWord base ∧ ∀ name : String, IsLabel name → ∀ line ∈ lines name, IsContent line

namespace Step

@[simp]
theorem isPlain_line (text : String) : (line text).IsPlain ↔ IsContent text := Iff.rfl

@[simp]
theorem isPlain_openBlock (heading : String) : (openBlock heading).IsPlain ↔ IsContent heading :=
  Iff.rfl

@[simp]
theorem isPlain_blank : blank.IsPlain := trivial

@[simp]
theorem isPlain_closeBlock : closeBlock.IsPlain := trivial

@[simp]
theorem isPlain_closeContainer : closeContainer.IsPlain := trivial

end Step

/-- Content and empty lines leave the blocks as they are. -/
theorem nests_of_forall {depth : Nat} {lines : List Line}
    (h : ∀ line ∈ lines, line = Line.blank ∨ line.depth = depth ∧ IsContent line.text) :
    Nests depth (lines.map Line.chars) depth := by
  induction lines with
  | nil => exact .nil
  | cons line lines ih =>
    obtain ⟨hline, hlines⟩ := List.forall_mem_cons.mp h
    rcases hline with rfl | ⟨rfl, hcontent⟩
    · exact .empty (ih hlines)
    · exact .content hcontent (ih hlines)

/-- The header is the mark, the usings and an empty line where there are any. -/
theorem nests_headerLines {usings extra : List String} (depth : Nat)
    (h : ∀ name ∈ usings ++ extra, '\n' ∉ name.toList) :
    Nests depth ((headerLines depth usings extra).map Line.chars) depth := by
  have hmark : IsContent generatedMark := by decide
  rw [headerLines, List.map_append, List.map_append]
  refine (Nests.append (.content hmark (.empty .nil)) (nests_of_forall ?_)).append ?_
  · intro line hline
    obtain ⟨name, hname, rfl⟩ := List.mem_map.mp hline
    have hline := h name (List.mem_filter.mp (List.mem_eraseDups.mp hname)).1
    exact Or.inr ⟨rfl, IsContent.around (by decide) hline (by decide)⟩
  · split
    · exact .nil
    · exact .empty .nil

theorem nests_openingLines {depth : Nat} {heading : String} (h : IsContent heading) :
    Nests depth ((openingLines depth heading).map Line.chars) (depth + 1) :=
  .content h (.opening .nil)

theorem nests_closingLine (depth : Nat) :
    Nests (depth + 1) ([closingLine (depth + 1)].map Line.chars) depth :=
  .closing .nil

/-- **Lines are nested as deep as the writer is.** -/
theorem nests_step {w : Writer} {s : Step} (hs : s.IsPlain) (hinside : w.dedents s ≤ w.depth) :
    Nests w.depth ((w.step s).2.map Line.chars) (w.step s).1.depth := by
  obtain ⟨depth, inNamespace, names⟩ := w
  cases s with
  | line text => exact .content hs .nil
  | blank => exact .empty .nil
  | indent => exact hs.elim
  | dedent => exact hs.elim
  | openBlock heading => exact nests_openingLines hs
  -- a writer that may go back is inside by one level at least
  | closeBlock =>
    obtain ⟨d, rfl⟩ : ∃ d, depth = d + 1 := Nat.exists_eq_add_of_le' hinside
    exact nests_closingLine d
  | fileHeader usings extra => exact nests_headerLines depth hs
  | openContainer options =>
    obtain ⟨hheading, hnamespace⟩ := hs
    rw [Writer.step]
    split
    · next name hopen =>
      rw [List.map_append]
      exact (nests_openingLines (hnamespace name hopen)).append (nests_openingLines hheading)
    · exact nests_openingLines hheading
  | closeContainer =>
    -- with a namespace there are two levels to go back
    cases inNamespace with
    | true =>
      obtain ⟨d, rfl⟩ : ∃ d, depth = d + 2 := Nat.exists_eq_add_of_le' hinside
      exact (nests_closingLine (d + 1)).append (nests_closingLine d)
    | false =>
      obtain ⟨d, rfl⟩ : ∃ d, depth = d + 1 := Nat.exists_eq_add_of_le' hinside
      exact nests_closingLine d
  | withLocal base lines =>
    refine nests_of_forall fun line hline => Or.inr ?_
    obtain ⟨text, htext, rfl⟩ := List.mem_map.mp hline
    exact ⟨rfl, hs.2 _ (isLabel_fresh hs.1) text htext⟩

/-- **All lines of a script are nested as deep as the writer is.** Induction on the script, of which no
step goes back too far. -/
theorem nests_run {w : Writer} {script : List Step} (hplain : ∀ s ∈ script, s.IsPlain)
    (hinside : w.StaysInside script) :
    Nests w.depth ((w.run script).2.map Line.chars) (w.run script).1.depth := by
  induction script generalizing w with
  | nil => exact .nil
  | cons s script ih =>
    obtain ⟨hs, hscript⟩ := List.forall_mem_cons.mp hplain
    show Nests _ (((w.step s).2 ++ ((w.step s).1.run script).2).map Line.chars) _
    rw [List.map_append]
    exact (nests_step hs hinside.1).append (ih hscript hinside.2)

/-- **The text of a script that returns is properly nested.** -/
theorem nests_ofScript {script : List Step} (hint : String) (h : Writer.Returns {} script)
    (hplain : ∀ s ∈ script, s.IsPlain) :
    Nests 0 (textLines (Source.ofScript hint script).text) 0 := by
  have hrun := nests_run hplain h.inside
  rw [h.samePlace.depth] at hrun
  exact hrun.renderAll

/-! ## §2 — what is written into the files -/

/-- None of these texts goes over the end of a line. -/
def OneLine (parts : List String) : Prop := ∀ part ∈ parts, '\n' ∉ part.toList

instance (parts : List String) : Decidable (OneLine parts) := List.decidableBAll _ _

/-- What the files of the container take from the options. -/
def Options.containerParts (options : Options) : List String :=
  options.usings ++ options.containerNamespace.toList ++ [options.containerClass]

/-- The names in the statements of a descriptor. -/
def descriptorParts (d : Descriptor) : List String :=
  d.implementation.text :: d.interface.text :: d.parameters.map (·.text)

/-- All that the registration routine takes from what it is given. -/
def registrationsParts (ds : List Descriptor) (options : Options) : List String :=
  options.containerParts ++ (ds.filter (·.isWellFormed)).flatMap descriptorParts

/-- All that the scope lifecycle routine takes from what it is given. -/
def scopeLifecycleParts (roots : List TypeName) (options : Options) : List String :=
  options.containerParts ++ [options.nodeType, options.scopeType] ++ roots.map (·.text)

theorem OneLine.append_iff {a b : List String} : OneLine (a ++ b) ↔ OneLine a ∧ OneLine b :=
  List.forall_mem_append

theorem isOneLine_of_parts {d : Descriptor} (h : OneLine (descriptorParts d)) : d.IsOneLine := by
  obtain ⟨himplementation, hmore⟩ := List.forall_mem_cons.mp h
  obtain ⟨hinterface, hparameters⟩ := List.forall_mem_cons.mp hmore
  exact ⟨himplementation, hinterface, fun p hp => hparameters _ (List.mem_map_of_mem hp)⟩

theorem isPlain_fileHeader {options : Options} (h : OneLine options.containerParts)
    {extra : List String} (hextra : OneLine extra) :
    (Step.fileHeader options.usings extra).IsPlain :=
  OneLine.append_iff.mpr ⟨(OneLine.append_iff.mp (OneLine.append_iff.mp h).1).1, hextra⟩

/-- The container takes its name and that of its namespace, if it has one. -/
theorem isPlain_openContainer {options : Options} (h : OneLine options.containerParts) :
    (Step.openContainer options).IsPlain := by
  obtain ⟨hnames, hclass⟩ := OneLine.append_iff.mp h
  obtain ⟨-, hnamespace⟩ := OneLine.append_iff.mp hnames
  refine ⟨IsContent.append (by decide) (hclass _ List.mem_cons_self), fun name hname => ?_⟩
  have hgiven := (Option.mem_filter_iff.mp hname).1
  exact IsContent.append (by decide) (hnamespace name (Option.mem_toList.mpr hgiven))

/-- The statements of a service take its names, and a local that is made from one of them. -/
theorem isPlain_registration {d : Descriptor} (h : d.IsOneLine) : (registration d).IsPlain := by
  have hconstruction := not_mem_construction h
  have hregister : ∀ {start : String}, IsContent start →
      IsContent (start ++ d.interface.text ++ ">(() => " ++ construction d ++ ");") :=
    fun hstart => (hstart.around h.interface (by decide)).around hconstruction (by decide)
  unfold registration
  split
  · exact hregister (by decide)
  · exact hregister (by decide)
  -- the local is made from a word, and any label may come of it
  · refine ⟨IsWord.append (by decide) (isWord_mangle _), fun name hlabel => ?_⟩
    have hname : '\n' ∉ name.toList :=
      not_mem_of_isLabel hlabel (by decide) (by decide) (by decide)
    refine List.forall_mem_cons.mpr ⟨?_, List.forall_mem_singleton.mpr ?_⟩
    · exact (IsContent.around (by decide) hname (by decide)).around hconstruction (by decide)
    · exact (IsContent.around (by decide) h.interface (by decide)).around hname (by decide)

/-- A branch takes the name of its type, behind a keyword. -/
theorem isPlain_rootBranch {keyword : String} (hkeyword : IsContent keyword) {root : TypeName}
    (h : '\n' ∉ root.text.toList) : ∀ s ∈ rootBranch keyword root, s.IsPlain := by
  have hheading : IsContent (keyword ++ " (node is " ++ root.text ++ ")") :=
    (hkeyword.append (by decide)).around h (by decide)
  simp +decide [rootBranch, hheading]

/-- So do all branches, whichever keyword they have. -/
theorem isPlain_rootBranches {roots : List TypeName} (h : ∀ r ∈ roots, '\n' ∉ r.text.toList) :
    ∀ s ∈ rootBranches roots, s.IsPlain := by
  cases roots with
  | nil => exact List.forall_mem_nil _
  | cons first rest =>
    obtain ⟨hfirst, hrest⟩ := List.forall_mem_cons.mp h
    refine List.forall_mem_append.mpr ⟨isPlain_rootBranch (by decide) hfirst, fun s hs => ?_⟩
    obtain ⟨root, hroot, hmem⟩ := List.mem_flatMap.mp hs
    exact isPlain_rootBranch (by decide) (hrest root hroot) s hmem

/-- **What is put into the registration routine stays on its lines.** -/
theorem isPlain_registrationsScript {ds : List Descriptor} {options : Options}
    (h : OneLine (registrationsParts ds options)) :
    ∀ s ∈ registrationsScript ds options, s.IsPlain := by
  obtain ⟨hcontainer, hds⟩ := OneLine.append_iff.mp h
  have hbody : ∀ s ∈ (ds.filter (·.isWellFormed)).map registration, s.IsPlain := by
    refine List.forall_mem_map.mpr fun d hd => isPlain_registration (isOneLine_of_parts ?_)
    exact fun part hpart => hds part (List.mem_flatMap.mpr ⟨d, hd, hpart⟩)
  have hheading : IsContent "partial void RegisterGeneratedServices()" := by decide
  simp only [registrationsScript, List.forall_mem_append, List.forall_mem_cons]
  exact ⟨⟨⟨isPlain_fileHeader hcontainer (by decide), isPlain_openContainer hcontainer, hheading,
    List.forall_mem_nil _⟩, hbody⟩, trivial, trivial, List.forall_mem_nil _⟩

/-- **What is put into the lifecycle routine stays on its lines.** -/
theorem isPlain_scopeLifecycleScript {roots : List TypeName} {options : Options}
    (h : OneLine (scopeLifecycleParts roots options)) :
    ∀ s ∈ scopeLifecycleScript roots options, s.IsPlain := by
  obtain ⟨hoptions, hroots⟩ := OneLine.append_iff.mp h
  obtain ⟨hcontainer, htypes⟩ := OneLine.append_iff.mp hoptions
  obtain ⟨hnode, hmore⟩ := List.forall_mem_cons.mp htypes
  have hscope := hmore _ List.mem_cons_self
  have hheader : (Step.fileHeader options.usings ["System.Collections.Generic"]).IsPlain :=
    isPlain_fileHeader hcontainer (by decide)
  have hcontainer := isPlain_openContainer hcontainer
  -- each line starts with a fixed text, and what the options give comes after it
  have htable : IsContent ("private readonly Dictionary<" ++ options.nodeType ++ ", " ++
      options.scopeType ++ "> " ++ scopeTable ++ " = new();") :=
    (((IsContent.around (by decide) hnode (by decide)).around hscope (by decide)).append
      (by decide)).append (by decide)
  have hhandler : ∀ {start : String}, IsContent start →
      IsContent (start ++ options.nodeType ++ " node)") :=
    fun hstart => hstart.around hnode (by decide)
  have hadded : IsContent ("private void OnNodeAdded(" ++ options.nodeType ++ " node)") :=
    hhandler (by decide)
  have hremoved : IsContent ("private void OnNodeRemoved(" ++ options.nodeType ++ " node)") :=
    hhandler (by decide)
  have hbranches : ∀ s ∈ rootBranches roots, s.IsPlain :=
    isPlain_rootBranches fun r hr => hroots _ (List.mem_map_of_mem hr)
  refine List.forall_mem_append.mpr ⟨List.forall_mem_append.mpr ⟨?_, hbranches⟩, ?_⟩
  · simp +decide [hheader, hcontainer, htable, hadded]
  · simp +decide [hremoved]

/-- The attribute for a lifetime is given nothing but the name of that. -/
theorem isPlain_lifetimeAttribute (l : Lifetime) : ∀ s ∈ lifetimeAttribute l, s.IsPlain := by
  have hname : '\n' ∉ (l.markerName ++ "Attribute").toList := by
    cases l <;> decide
  have hclass : IsContent
      ("public sealed class " ++ (l.markerName ++ "Attribute") ++ " : Attribute") :=
    IsContent.around (by decide) hname (by decide)
  have hconstructor : IsContent ("public " ++ (l.markerName ++ "Attribute") ++
      "(Type serviceType) => ServiceType = serviceType;") :=
    IsContent.around (by decide) hname (by decide)
  simp +decide [lifetimeAttribute, hclass, hconstructor]

/-- An attribute without arguments takes its name and what it is put on. -/
theorem isPlain_plainAttribute {target name : String} (htarget : '\n' ∉ target.toList)
    (hname : '\n' ∉ name.toList) : ∀ s ∈ plainAttribute target name, s.IsPlain := by
  have husage : IsContent ("[AttributeUsage(AttributeTargets." ++ target ++ ")]") :=
    IsContent.around (by decide) htarget (by decide)
  have hclass : IsContent ("public sealed class " ++ name ++ " : Attribute") :=
    IsContent.around (by decide) hname (by decide)
  simp [plainAttribute, husage, hclass]

/-- **What is put into the attributes stays on its lines**: the namespace is all that the options
decide. -/
theorem isPlain_attributesScript {options : Options} (h : OneLine [options.attributeNamespace]) :
    ∀ s ∈ attributesScript options, s.IsPlain := by
  have hnamespace : IsContent ("namespace " ++ options.attributeNamespace) :=
    IsContent.append (by decide) (h _ List.mem_cons_self)
  have hheader : (Step.fileHeader [] ["System"]).IsPlain := (by decide : OneLine ["System"])
  have hlifetimes : ∀ s ∈ Lifetime.all.flatMap lifetimeAttribute, s.IsPlain := fun s hs => by
    obtain ⟨l, -, hmem⟩ := List.mem_flatMap.mp hs
    exact isPlain_lifetimeAttribute l s hmem
  simp only [attributesScript, List.forall_mem_append, List.forall_mem_cons]
  exact ⟨⟨⟨⟨⟨⟨hheader, hnamespace, List.forall_mem_nil _⟩, hlifetimes⟩,
    isPlain_plainAttribute (by decide) (by decide)⟩, Step.isPlain_blank, List.forall_mem_nil _⟩,
    isPlain_plainAttribute (by decide) (by decide)⟩, trivial, List.forall_mem_nil _⟩

/-! ## §3 — the files -/

/-- **Generated files are balanced.** Whatever a file is generated from, its script goes back no
further than it went in, and at its end nothing is open: it began at depth 0 without a namespace.
Where nothing that is put into a file goes over the end of a line, the lines of its text open and
close blocks in turn, and are indented by their blocks. -/
theorem files_balanced (ds : List Descriptor) (roots : List ScopeRoot) (options : Options) :
    (Writer.Returns {} (registrationsScript ds options) ∧
      Writer.Returns {} (scopeLifecycleScript (distinctRoots roots) options) ∧
      Writer.Returns {} (attributesScript options)) ∧
    (OneLine (registrationsParts ds options) →
      Nests 0 (textLines (registrations ds options).text) 0) ∧
    (OneLine (scopeLifecycleParts (distinctRoots roots) options) →
      ∀ source ∈ scopeLifecycle roots options, Nests 0 (textLines source.text) 0) ∧
    (OneLine [options.attributeNamespace] → Nests 0 (textLines (attributes options).text) 0) := by
  have hregistrations := returns_registrationsScript ds options
  have hlifecycle := returns_scopeLifecycleScript (distinctRoots roots) options
  have hattributes := returns_attributesScript options
  refine ⟨⟨hregistrations, hlifecycle, hattributes⟩, fun h => ?_, fun h source hsource => ?_,
    fun h => ?_⟩
  · exact nests_ofScript _ hregistrations (isPlain_registrationsScript h)
  -- there may be no file, but if there is one, it is what the script writes
  · have htext : source = .ofScript scopeLifecycleHint
        (scopeLifecycleScript (distinctRoots roots) options) := by
      unfold scopeLifecycle at hsource
      split at hsource
      · exact absurd hsource (Option.not_mem_none source)
      · exact (Option.mem_some.mp hsource).symm
    rw [htext]
    exact nests_ofScript _ hlifecycle (isPlain_scopeLifecycleScript h)
  · exact nests_ofScript _ hattributes (isPlain_attributesScript h)

/-- A namespace around the container, locals that are numbered, and roots of which one is met again
and one is empty. -/
theorem files_balanced_in_namespace :
    let ds : List Descriptor := [⟨⟨"Repo<A, B>"⟩, ⟨"IRepo"⟩, .singleton, [⟨"ILog"⟩]⟩,
      ⟨⟨"Cache"⟩, ⟨"IRepo"⟩, .singleton, []⟩, ⟨⟨"\n"⟩, ⟨""⟩, .perScope, []⟩]
    let roots : List ScopeRoot := [⟨⟨"Level"⟩, none⟩, ⟨⟨""⟩, none⟩, ⟨⟨"Menu"⟩, none⟩,
      ⟨⟨"Level"⟩, none⟩]
    let options : Options := { containerNamespace := some "Game", usings := ["Godot", "", "Godot"] }
    (OneLine (registrationsParts ds options) ∧
      OneLine (scopeLifecycleParts (distinctRoots roots) options) ∧
      OneLine [options.attributeNamespace]) ∧
    Nests 0 (textLines (registrations ds options).text) 0 ∧
    (∃ source, scopeLifecycle roots options = some source ∧
      Nests 0 (textLines source.text) 0) ∧
    Nests 0 (textLines (attributes options).text) 0 := by
  intro ds roots options
  have hregistrations : OneLine (registrationsParts ds options) := by decide
  have hlifecycle : OneLine (scopeLifecycleParts (distinctRoots roots) options) := by decide
  have hattributes : OneLine [options.attributeNamespace] := by decide
  obtain ⟨-, hregistered, hscoped, hmarked⟩ := files_balanced ds roots options
  exact ⟨⟨hregistrations, hlifecycle, hattributes⟩, hregistered hregistrations,
    ⟨_, rfl, hscoped hlifecycle _ rfl⟩, hmarked hattributes⟩

end Registrar.Code
