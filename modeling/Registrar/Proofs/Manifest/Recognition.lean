import Registrar.Proofs.Lists
import Registrar.Proofs.Manifest.Outcomes

/-!
# Names that are recognised

Six plain names are looked for among the names of attributes: three markers of a lifetime, the tag of
scope roots, and two markers of constructors. A name is recognised as one of them exactly if it is
a way to write it, and never as two of them. Nothing else is seen of a name, so classes whose
attributes have names that are recognised alike declare the same.

* `mem_recognisedNames_iff` : what is looked for.
* `AttributeEntry.Alike`, `ConstructorEntry.Alike`, `ClassEntry.Alike` : the same up to how the names
  of attributes are written.
* `ClassEntry.Alike.markers`, `ClassEntry.Alike.isScopeRoot_eq`, `ConstructorEntry.Alike.lower_eq` :
  alike attributes count alike.
* `recognition_by_grammar` : names are recognised by the grammar and by nothing else.
-/

namespace Registrar.Manifest

/-! ## §1 — what is looked for -/

/-- The plain names that are looked for, on classes and on constructors. -/
def recognisedNames : List String :=
  ["TransientService", "ScopedService", "SingletonService", "ScopeRoot", "Constructor",
    "InjectionConstructor"]

/-- The names that are looked for are the markers of the lifetimes, the tag, and the markers of
constructors. -/
theorem mem_recognisedNames_iff {plain : String} :
    plain ∈ recognisedNames ↔
      (∃ lifetime : Lifetime, lifetime.markerName = plain) ∨ plain = scopeRootTag ∨
        plain ∈ constructorMarkers := by
  constructor
  · intro h
    simp only [recognisedNames, List.mem_cons, List.not_mem_nil, or_false] at h
    rcases h with rfl | rfl | rfl | rfl | rfl | rfl
    · exact Or.inl ⟨.transient, rfl⟩
    · exact Or.inl ⟨.perScope, rfl⟩
    · exact Or.inl ⟨.singleton, rfl⟩
    · exact Or.inr (Or.inl rfl)
    · exact Or.inr (Or.inr (by decide))
    · exact Or.inr (Or.inr (by decide))
  · rintro (⟨lifetime, rfl⟩ | rfl | h)
    · cases lifetime <;> decide
    · decide
    · revert plain
      decide

theorem isPlainName_of_mem_recognisedNames {plain : String} (h : plain ∈ recognisedNames) :
    IsPlainName plain := by
  rcases mem_recognisedNames_iff.mp h with ⟨lifetime, rfl⟩ | rfl | h
  · exact isPlainName_markerName lifetime
  · exact isPlainName_scopeRootTag
  · exact isPlainName_of_mem_constructorMarkers h

/-! ## §2 — names that are written in other ways -/

/-- Attributes that are the same, but that their names may be different ways to write the same
recognised name, or be both of no account. -/
structure AttributeEntry.Alike (attr other : AttributeEntry) : Prop where
  name : ∀ plain ∈ recognisedNames, Denotes attr.name plain ↔ Denotes other.name plain
  arguments : attr.arguments = other.arguments

/-- Constructors that are the same up to the names of their attributes. -/
structure ConstructorEntry.Alike (entry other : ConstructorEntry) : Prop where
  accessibility : entry.accessibility = other.accessibility
  isStatic : entry.isStatic = other.isStatic
  parameters : entry.parameters = other.parameters
  location : entry.location = other.location
  attributes : List.Forall₂ AttributeEntry.Alike entry.attributes other.attributes

/-- Classes that are the same up to the names of attributes, their own and those of their
constructors. -/
structure ClassEntry.Alike (entry other : ClassEntry) : Prop where
  name : entry.name = other.name
  location : entry.location = other.location
  attributes : List.Forall₂ AttributeEntry.Alike entry.attributes other.attributes
  constructors : List.Forall₂ ConstructorEntry.Alike entry.constructors other.constructors

namespace AttributeEntry.Alike

variable {attr other : AttributeEntry}

theorem lifetime?_eq (h : attr.Alike other) : attr.lifetime? = other.lifetime? := by
  refine Option.ext fun lifetime => ?_
  have hplain := mem_recognisedNames_iff.mpr (Or.inl ⟨lifetime, rfl⟩)
  rw [lifetime?_eq_some_iff, lifetime?_eq_some_iff, h.name _ hplain]

/-- Alike attributes name the same service type, since their arguments are the same. -/
theorem serviceType?_eq (h : attr.Alike other) : attr.serviceType? = other.serviceType? := by
  unfold serviceType?
  rw [h.arguments]

/-- A recognised name is denoted in both lists or in none. -/
theorem exists_denotes_iff {attributes others : List AttributeEntry}
    (h : List.Forall₂ AttributeEntry.Alike attributes others) {plain : String}
    (hplain : plain ∈ recognisedNames) :
    (∃ attr ∈ attributes, Denotes attr.name plain) ↔ ∃ attr ∈ others, Denotes attr.name plain := by
  induction h with
  | nil => exact Iff.rfl
  | cons halike _ ih =>
    rw [List.exists_mem_cons_iff, List.exists_mem_cons_iff, halike.name plain hplain, ih]

end AttributeEntry.Alike

/-- **Alike constructors are lowered alike.** -/
theorem ConstructorEntry.Alike.lower_eq {entry other : ConstructorEntry} (h : entry.Alike other) :
    entry.lower = other.lower := by
  -- the marker is named first, so that the attributes can be compared for one marker at a time
  have hmarks : ∀ e : ConstructorEntry, e.lower.isMarked = true ↔
      ∃ marker ∈ constructorMarkers, ∃ attr ∈ e.attributes, Denotes attr.name marker := by
    intro e
    rw [isMarked_lower_iff]
    exact ⟨fun ⟨attr, hattr, marker, hmarker, hdenotes⟩ => ⟨marker, hmarker, attr, hattr, hdenotes⟩,
      fun ⟨marker, hmarker, attr, hattr, hdenotes⟩ => ⟨attr, hattr, marker, hmarker, hdenotes⟩⟩
  have hmarked : entry.lower.isMarked = other.lower.isMarked := by
    rw [Bool.eq_iff_iff, hmarks, hmarks]
    refine exists_congr fun marker => and_congr_right fun hmarker => ?_
    exact AttributeEntry.Alike.exists_denotes_iff h.attributes
      (mem_recognisedNames_iff.mpr (Or.inr (Or.inr hmarker)))
  have hparameters : entry.lower.parameters = other.lower.parameters :=
    congrArg (List.map TypeName.ofString) h.parameters
  rw [Constructor.mk.injEq]
  exact ⟨h.accessibility, h.isStatic, hparameters, hmarked, h.location⟩

/-! ## §3 — what alike classes declare -/

namespace ClassEntry.Alike

variable {entry other : ClassEntry}

/-- The markers of alike classes give the same lifetimes by attributes that are alike. Induction on
the attributes. -/
theorem markers (h : entry.Alike other) :
    List.Forall₂ (fun marker marker' => marker.1 = marker'.1 ∧ marker.2.Alike marker'.2)
      entry.markers other.markers := by
  obtain ⟨-, -, hattributes, -⟩ := h
  unfold ClassEntry.markers
  -- nothing else of the two classes is needed for the induction
  generalize entry.attributes = attributes at hattributes
  generalize other.attributes = others at hattributes
  induction hattributes with
  | nil => exact .nil
  | @cons attr attr' _ _ halike _ ih =>
    rw [List.filterMap_cons, List.filterMap_cons, halike.lifetime?_eq]
    cases attr'.lifetime? with
    | none => exact ih
    | some lifetime => exact .cons ⟨rfl, halike⟩ ih

theorem isScopeRoot_eq (h : entry.Alike other) : entry.isScopeRoot = other.isScopeRoot := by
  rw [Bool.eq_iff_iff, isScopeRoot_iff, isScopeRoot_iff]
  exact AttributeEntry.Alike.exists_denotes_iff h.attributes
    (mem_recognisedNames_iff.mpr (Or.inr (Or.inl rfl)))

theorem lower_constructors_eq (h : entry.Alike other) :
    entry.constructors.map (·.lower) = other.constructors.map (·.lower) :=
  map_eq_of_forall₂ h.constructors fun _ _ => ConstructorEntry.Alike.lower_eq

theorem className_eq (h : entry.Alike other) : entry.className = other.className :=
  congrArg TypeName.ofString h.name

theorem lifetimes_eq (h : entry.Alike other) :
    entry.markers.map (·.1) = other.markers.map (·.1) :=
  map_eq_of_forall₂ h.markers fun _ _ => And.left

/-- No marker, one, or several: the cases in which services are declared in different ways. -/
theorem services_eq (h : entry.Alike other) : entry.services = other.services := by
  have hservice : entry.service = other.service := by
    funext serviceType lifetime
    unfold service
    rw [h.className_eq, h.lower_constructors_eq, h.location]
  have hmarkers := h.markers
  have hlifetimes := h.lifetimes_eq
  unfold services
  rw [hservice]
  generalize entry.markers = markers at hmarkers hlifetimes
  generalize other.markers = others at hmarkers hlifetimes
  cases hmarkers with
  | nil => rfl
  | @cons marker marker' _ _ hfirst hmore =>
    cases hmore with
    | nil => simp only [hfirst.1, hfirst.2.serviceType?_eq]
    | cons _ _ => simp only [hlifetimes]

/-- Alike classes declare the same, or fail in the same way. -/
theorem declares_eq (h : entry.Alike other) : entry.declares = other.declares := by
  have hroots : entry.scopeRoots = other.scopeRoots := by
    unfold scopeRoots
    rw [h.isScopeRoot_eq, h.className_eq, h.location]
  have hempty : entry.markers.isEmpty = other.markers.isEmpty := by
    rw [← List.isEmpty_map (f := Prod.fst), h.lifetimes_eq, List.isEmpty_map]
  have hhead : entry.markers.head?.map (·.1.markerName) =
      other.markers.head?.map (·.1.markerName) := by
    have hfirst := congrArg List.head? h.lifetimes_eq
    rw [List.head?_map, List.head?_map] at hfirst
    have hname := congrArg (Option.map Lifetime.markerName) hfirst
    rwa [Option.map_map, Option.map_map] at hname
  unfold declares
  rw [hempty, h.isScopeRoot_eq, h.className_eq, hhead, h.services_eq, hroots]

/-- **Alike classes are lowered alike**, the diagnostics included: they name a marker by its plain
name. -/
theorem lower_eq (h : entry.Alike other) : entry.lower = other.lower := by
  have hreport : ∀ fault : ClassFault, fault.report entry = fault.report other := by
    intro fault
    cases fault <;> simp only [ClassFault.report, h.className_eq, h.location]
  unfold lower
  rw [h.declares_eq]
  cases other.declares with
  | ok batch => rfl
  | error fault => simp only [hreport]

end ClassEntry.Alike

/-- **Names are recognised by the grammar and by nothing else.** A name counts as a recognised name
exactly if it is a way to write it, so it counts as one of them at most. What counts on a class, the
markers of a lifetime in their order and the tag, and what counts on a constructor is what its
attributes are ways to write; in whichever of these ways they are written, the class is lowered to
the same declarations. -/
theorem recognition_by_grammar :
    (∀ name : String, ∀ plain ∈ recognisedNames,
      (normalizeAttributeName name = plain ↔ Denotes name plain) ∧
      ∀ plain' ∈ recognisedNames, Denotes name plain → Denotes name plain' → plain = plain') ∧
    (∀ entry : ClassEntry, Marks entry.attributes entry.markers ∧
      (entry.isScopeRoot = true ↔ ∃ attr ∈ entry.attributes, Denotes attr.name "ScopeRoot")) ∧
    (∀ entry : ConstructorEntry, entry.lower.isMarked = true ↔
      ∃ attr ∈ entry.attributes,
        Denotes attr.name "Constructor" ∨ Denotes attr.name "InjectionConstructor") ∧
    ∀ entry other : ClassEntry, entry.Alike other →
      entry.markers.map (·.1) = other.markers.map (·.1) ∧
      entry.isScopeRoot = other.isScopeRoot ∧
      entry.constructors.map (·.lower.isMarked) = other.constructors.map (·.lower.isMarked) ∧
      entry.lower = other.lower := by
  refine ⟨fun name plain hplain => ⟨?_, fun plain' hplain' h h' => ?_⟩, fun entry => ⟨?_, ?_⟩,
    fun entry => ?_, fun entry other h => ⟨h.lifetimes_eq, h.isScopeRoot_eq, ?_, h.lower_eq⟩⟩
  · exact normalizeAttributeName_eq_iff (isPlainName_of_mem_recognisedNames hplain)
  · exact h.unique h' (isPlainName_of_mem_recognisedNames hplain)
      (isPlainName_of_mem_recognisedNames hplain')
  · exact ClassEntry.marks_attributes_iff.mpr rfl
  · exact ClassEntry.isScopeRoot_iff
  · rw [ConstructorEntry.isMarked_lower_iff]
    -- the two markers of constructors, one by one
    simp only [constructorMarkers, List.exists_mem_cons_iff, List.not_mem_nil, false_and,
      exists_false, or_false]
  · have hlower := congrArg (List.map (·.isMarked)) h.lower_constructors_eq
    rwa [List.map_map, List.map_map] at hlower

/-- A tagged singleton with its marker and the mark of its constructor written in two ways. -/
theorem recognition_by_grammar_spellings :
    let plain : ClassEntry := {
      name := "Log"
      attributes := [{ name := "SingletonService", arguments := ["typeof(ILog)"] },
        { name := "Obsolete" }, { name := "ScopeRoot" }]
      constructors := [{ attributes := [{ name := "Constructor" }] }] }
    let qualified : ClassEntry := {
      name := "Log"
      attributes := [
        { name := " global::Game.SingletonServiceAttribute\t", arguments := ["typeof(ILog)"] },
        { name := "SingletonServiceAttributeAttribute" }, { name := "Game.ScopeRoot" }]
      constructors := [{ attributes := [{ name := "Game.ConstructorAttribute" }] }] }
    plain.Alike qualified ∧
      plain.markers.map (·.1) = qualified.markers.map (·.1) ∧
      plain.isScopeRoot = qualified.isScopeRoot ∧
      plain.constructors.map (·.lower.isMarked) = qualified.constructors.map (·.lower.isMarked) ∧
      plain.lower = qualified.lower := by
  intro plain qualified
  have halike : plain.Alike qualified := by
    refine ⟨rfl, rfl, ?_, ?_⟩
    · refine .cons ⟨?_, rfl⟩ (.cons ⟨?_, rfl⟩ (.cons ⟨?_, rfl⟩ .nil))
      · decide +kernel
      · decide +kernel
      · decide +kernel
    · refine .cons ⟨rfl, rfl, rfl, rfl, .cons ⟨?_, rfl⟩ .nil⟩ .nil
      decide +kernel
  exact ⟨halike, recognition_by_grammar.2.2.2 plain qualified halike⟩

end Registrar.Manifest
