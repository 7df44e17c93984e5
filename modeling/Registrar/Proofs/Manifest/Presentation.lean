import Registrar.Proofs.Manifest.Outcomes

/-!
# How a manifest is written

`Manifest.plain` takes out of a manifest what is a matter of presentation: blanks, qualifiers and
endings of the names of attributes, attributes and arguments that nothing looks at, and classes
without an attribute that counts. Lowering gives the same for a manifest and for its plain form, so
two manifests that differ in presentation only are lowered and compiled alike.

* `typeText_plainArgument` : the plain form of an argument names the same type.
* `markers_plain`, `isTagged_plain_iff`, `ConstructorEntry.lower_plain` : attributes count as before.
* `ClassEntry.lower_plain`, `lower_plain` : classes and manifests are lowered as before.
* `lower_ignores_presentation` : presentation makes no difference.
-/

namespace Registrar

namespace Manifest

/-! ## §1 — the plain form -/

/-- The argument without the blanks around it and without those just inside of `typeof(...)`. -/
def plainArgument (argument : String) : String :=
  match AttributeEntry.insideTypeOf? (Text.trimChars argument.toList) with
  | some inner => "typeof(" ++ Text.trim (String.ofList inner) ++ ")"
  | none => Text.trim argument

/-- A marker of a lifetime under its plain name and with its first argument only. -/
def AttributeEntry.plainMarker (attr : AttributeEntry) (lifetime : Lifetime) : AttributeEntry :=
  { name := lifetime.markerName, arguments := (attr.arguments.take 1).map plainArgument }

/-- What counts of an attribute of a class. -/
def AttributeEntry.plainOnClass? (attr : AttributeEntry) : Option AttributeEntry :=
  match Lifetime.all.find? fun lifetime => Denotes attr.name lifetime.markerName with
  | some lifetime => some (attr.plainMarker lifetime)
  | none => if Denotes attr.name scopeRootTag then some { name := scopeRootTag } else none

/-- What counts of an attribute of a constructor. -/
def AttributeEntry.plainOnConstructor? (attr : AttributeEntry) : Option AttributeEntry :=
  (constructorMarkers.find? fun marker => Denotes attr.name marker).map fun marker =>
    { name := marker }

/-- What counts of a constructor: its parameters without blanks, and its markers. -/
def ConstructorEntry.plain (entry : ConstructorEntry) : ConstructorEntry :=
  { entry with
    parameters := entry.parameters.map Text.trim
    attributes := entry.attributes.filterMap (·.plainOnConstructor?) }

/-- What counts of a class: its name without blanks, its markers and its tag, and its
constructors. -/
def ClassEntry.plain (entry : ClassEntry) : ClassEntry :=
  { entry with
    name := Text.trim entry.name
    attributes := entry.attributes.filterMap (·.plainOnClass?)
    constructors := entry.constructors.map (·.plain) }

end Manifest

/-- The manifest without what is a matter of presentation. -/
def Manifest.plain (manifest : Manifest) : Manifest :=
  { classes := (manifest.classes.map (·.plain)).filter fun entry => entry.attributes ≠ [] }

namespace Manifest

/-! ## §2 — arguments -/

/-- The wrapper of an argument stays, and the blanks inside of it go. -/
theorem plainArgument_typeOf {argument inner : String}
    (shape : Text.trim argument = "typeof(" ++ inner ++ ")") :
    plainArgument argument = "typeof(" ++ Text.trim inner ++ ")" := by
  rw [plainArgument, AttributeEntry.insideTypeOf?_trim_eq_some_iff.mpr shape]
  simp only [String.ofList_toList]

theorem plainArgument_bare {argument : String}
    (shape : ∀ inner : String, Text.trim argument ≠ "typeof(" ++ inner ++ ")") :
    plainArgument argument = Text.trim argument := by
  rw [plainArgument, AttributeEntry.insideTypeOf?_trim_eq_none shape]

/-- A wrapped type has no blanks around it. -/
theorem trim_typeOf (inner : String) :
    Text.trim ("typeof(" ++ inner ++ ")") = "typeof(" ++ inner ++ ")" := by
  rw [← String.toList_inj, Text.toList_trim, AttributeEntry.toList_typeOf]
  -- it begins with a letter and ends with a bracket
  apply Text.trimChars_eq_self
  · intro c hc
    obtain rfl : 't' = c := Option.some.inj hc
    decide
  · intro c hc
    rw [List.getLast?_append_of_ne_nil _ (by simp), List.getLast?_concat] at hc
    obtain rfl := Option.some.inj hc
    decide

/-- The plain form of an argument names the same type. -/
theorem typeText_plainArgument (argument : String) :
    AttributeEntry.typeText (plainArgument argument) = AttributeEntry.typeText argument := by
  symm
  rw [← AttributeEntry.namesType_iff]
  -- the plain form has the wrapper exactly if the argument has it
  by_cases hshape : ∃ inner : String, Text.trim argument = "typeof(" ++ inner ++ ")"
  · obtain ⟨inner, hshape⟩ := hshape
    have hplain : Text.trim (plainArgument argument) = "typeof(" ++ Text.trim inner ++ ")" := by
      rw [plainArgument_typeOf hshape, trim_typeOf]
    have hnames := AttributeEntry.NamesType.wrapped hplain
    rw [Text.trim_trim] at hnames
    rwa [← AttributeEntry.namesType_iff.mp (.wrapped hshape)]
  · have hshape' := not_exists.mp hshape
    have hplain : ∀ inner : String, Text.trim (Text.trim argument) ≠ "typeof(" ++ inner ++ ")" := by
      intro inner
      rw [Text.trim_trim]
      exact hshape' inner
    have hnames := AttributeEntry.NamesType.bare hplain
    rw [Text.trim_trim] at hnames
    rwa [plainArgument_bare hshape', ← AttributeEntry.namesType_iff.mp (.bare hshape')]

/-! ## §3 — attributes -/

/-- A marker of a lifetime is not the tag. -/
theorem Denotes.not_scopeRootTag {name : String} {lifetime : Lifetime}
    (h : Denotes name lifetime.markerName) : ¬ Denotes name scopeRootTag := by
  intro htag
  have heq := h.unique htag (isPlainName_markerName lifetime) isPlainName_scopeRootTag
  cases lifetime <;> exact absurd heq (by decide)

namespace AttributeEntry

/-- The plain form of a marker names the same service type. -/
theorem serviceType?_plainMarker (attr : AttributeEntry) (lifetime : Lifetime) :
    (attr.plainMarker lifetime).serviceType? = attr.serviceType? := by
  rw [serviceType?_eq, serviceType?_eq, plainMarker]
  cases attr.arguments with
  | nil => rfl
  | cons argument more =>
    simp only [List.take_succ_cons, List.map_cons, List.head?_cons, Option.bind_some,
      typeText_plainArgument]

/-- The lifetime that an attribute denotes is the one that it is looked up as. -/
theorem find?_denotes (attr : AttributeEntry) :
    (Lifetime.all.find? fun lifetime => Denotes attr.name lifetime.markerName) =
      attr.lifetime? := by
  have hsame : (fun lifetime : Lifetime => decide (Denotes attr.name lifetime.markerName)) =
      fun lifetime => decide (lifetime.markerName = attr.simpleName) := by
    funext lifetime
    rw [decide_eq_decide, ← normalizeAttributeName_eq_iff (isPlainName_markerName lifetime),
      eq_comm]
    rfl
  rw [hsame]
  rfl

theorem plainOnClass?_of_lifetime? {attr : AttributeEntry} {lifetime : Lifetime}
    (h : attr.lifetime? = some lifetime) : attr.plainOnClass? = some (attr.plainMarker lifetime) := by
  rw [plainOnClass?, find?_denotes, h]

theorem plainOnClass?_of_lifetime?_eq_none {attr : AttributeEntry} (h : attr.lifetime? = none) :
    attr.plainOnClass? =
      if Denotes attr.name scopeRootTag then some { name := scopeRootTag } else none := by
  rw [plainOnClass?, find?_denotes, h]

/-- What is kept of an attribute marks the same lifetime. -/
theorem lifetime?_plainOnClass? {attr plain : AttributeEntry} (h : attr.plainOnClass? = some plain) :
    plain.lifetime? = attr.lifetime? := by
  cases hlifetime : attr.lifetime? with
  | some lifetime =>
    rw [plainOnClass?_of_lifetime? hlifetime] at h
    obtain rfl := Option.some.inj h
    exact lifetime?_eq_some_iff.mpr (denotes_self (isPlainName_markerName lifetime))
  | none =>
    rw [plainOnClass?_of_lifetime?_eq_none hlifetime] at h
    split at h
    · obtain rfl := Option.some.inj h
      -- what is kept is the tag, and the tag marks no lifetime
      rw [lifetime?_eq_none_iff]
      intro lifetime hmarker
      exact Denotes.not_scopeRootTag hmarker (denotes_self isPlainName_scopeRootTag)
    · exact absurd h (by simp)

/-- What is kept of an attribute is the tag if the attribute is. -/
theorem denotes_plainOnClass?_iff {attr plain : AttributeEntry}
    (h : attr.plainOnClass? = some plain) :
    Denotes plain.name scopeRootTag ↔ Denotes attr.name scopeRootTag := by
  cases hlifetime : attr.lifetime? with
  | some lifetime =>
    -- neither of the two is the tag, as both are markers
    have hattr := lifetime?_eq_some_iff.mp hlifetime
    have hplain := lifetime?_eq_some_iff.mp ((lifetime?_plainOnClass? h).trans hlifetime)
    exact iff_of_false hplain.not_scopeRootTag hattr.not_scopeRootTag
  | none =>
    rw [plainOnClass?_of_lifetime?_eq_none hlifetime] at h
    split at h
    · next htag =>
      obtain rfl := Option.some.inj h
      exact iff_of_true (denotes_self isPlainName_scopeRootTag) htag
    · exact absurd h (by simp)

/-- The tag is kept. -/
theorem exists_plainOnClass?_of_denotes {attr : AttributeEntry}
    (h : Denotes attr.name scopeRootTag) : ∃ plain, attr.plainOnClass? = some plain := by
  have hlifetime : attr.lifetime? = none := by
    rw [lifetime?_eq_none_iff]
    intro lifetime hmarker
    exact hmarker.not_scopeRootTag h
  rw [plainOnClass?_of_lifetime?_eq_none hlifetime, if_pos h]
  exact ⟨_, rfl⟩

/-! ## §4 — constructors -/

/-- Of the attributes of a constructor exactly the markers are kept, as markers. -/
theorem exists_denotes_plainOnConstructor?_iff (attr : AttributeEntry) :
    (∃ plain, attr.plainOnConstructor? = some plain ∧
        ∃ marker ∈ constructorMarkers, Denotes plain.name marker) ↔
      ∃ marker ∈ constructorMarkers, Denotes attr.name marker := by
  constructor
  · rintro ⟨plain, hplain, -⟩
    obtain ⟨marker, hfind, -⟩ := Option.map_eq_some_iff.mp hplain
    exact ⟨marker, List.mem_of_find?_eq_some hfind, by simpa using List.find?_some hfind⟩
  · rintro ⟨marker, hmarker, hdenotes⟩
    have hsome : (constructorMarkers.find? fun marker => Denotes attr.name marker).isSome = true :=
      List.find?_isSome.mpr ⟨marker, hmarker, decide_eq_true hdenotes⟩
    obtain ⟨first, hfirst⟩ := Option.isSome_iff_exists.mp hsome
    have hmem := List.mem_of_find?_eq_some hfirst
    refine ⟨{ name := first }, ?_, first, hmem, ?_⟩
    · rw [plainOnConstructor?, hfirst, Option.map_some]
    · exact denotes_self (isPlainName_of_mem_constructorMarkers hmem)

end AttributeEntry

/-- A constructor is lowered like its plain form. -/
theorem ConstructorEntry.lower_plain (entry : ConstructorEntry) :
    entry.plain.lower = entry.lower := by
  have hparameters : entry.plain.lower.parameters = entry.lower.parameters := by
    show (entry.parameters.map Text.trim).map TypeName.ofString = _
    rw [List.map_map]
    refine List.map_congr_left fun parameter _ => ?_
    rw [Function.comp_apply, TypeName.ofString, Text.trim_trim]
    rfl
  have hmarked : entry.plain.lower.isMarked = entry.lower.isMarked := by
    rw [Bool.eq_iff_iff, isMarked_lower_iff, isMarked_lower_iff]
    constructor
    · rintro ⟨plain, hmem, hmarker⟩
      obtain ⟨attr, hattr, hplain⟩ := List.mem_filterMap.mp hmem
      exact ⟨attr, hattr, attr.exists_denotes_plainOnConstructor?_iff.mp ⟨plain, hplain, hmarker⟩⟩
    · rintro ⟨attr, hattr, hmarker⟩
      obtain ⟨plain, hplain, hmarker'⟩ := attr.exists_denotes_plainOnConstructor?_iff.mpr hmarker
      exact ⟨plain, List.mem_filterMap.mpr ⟨attr, hattr, hplain⟩, hmarker'⟩
  rw [Constructor.mk.injEq]
  exact ⟨rfl, rfl, hparameters, hmarked, rfl⟩

/-! ## §5 — classes -/

namespace ClassEntry

variable (entry : ClassEntry)

/-- The plain form of a class has the same markers in the same order, each in its plain form. -/
theorem markers_plain : entry.plain.markers =
    entry.markers.map fun marker => (marker.1, marker.2.plainMarker marker.1) := by
  show (entry.attributes.filterMap (·.plainOnClass?)).filterMap _ = (List.filterMap _ _).map _
  rw [List.filterMap_filterMap, List.map_filterMap]
  refine List.filterMap_congr fun attr _ => ?_
  cases hlifetime : attr.lifetime? with
  | some lifetime =>
    have hplain := AttributeEntry.plainOnClass?_of_lifetime? hlifetime
    rw [hplain, Option.bind_some, AttributeEntry.lifetime?_plainOnClass? hplain, hlifetime]
    rfl
  | none =>
    rw [Option.map_none, Option.map_none, Option.bind_eq_none_iff]
    intro plain hplain
    rw [AttributeEntry.lifetime?_plainOnClass? hplain, hlifetime, Option.map_none]

/-- The plain form of a class is tagged if the class is. -/
theorem isTagged_plain_iff : entry.plain.IsTagged ↔ entry.IsTagged := by
  constructor
  · rintro ⟨plain, hmem, htag⟩
    obtain ⟨attr, hattr, hplain⟩ := List.mem_filterMap.mp hmem
    exact ⟨attr, hattr, (AttributeEntry.denotes_plainOnClass?_iff hplain).mp htag⟩
  · rintro ⟨attr, hattr, htag⟩
    obtain ⟨plain, hplain⟩ := AttributeEntry.exists_plainOnClass?_of_denotes htag
    exact ⟨plain, List.mem_filterMap.mpr ⟨attr, hattr, hplain⟩,
      (AttributeEntry.denotes_plainOnClass?_iff hplain).mpr htag⟩

theorem className_plain : entry.plain.className = entry.className := by
  show TypeName.ofString (Text.trim entry.name) = _
  rw [TypeName.ofString, Text.trim_trim]
  rfl

theorem isScopeRoot_plain : entry.plain.isScopeRoot = entry.isScopeRoot := by
  rw [Bool.eq_iff_iff, isScopeRoot_iff, isScopeRoot_iff]
  exact entry.isTagged_plain_iff

/-- The plain form of a class declares the same service for the same type and lifetime. -/
theorem service_plain (serviceType : TypeName) (lifetime : Lifetime) :
    entry.plain.service serviceType lifetime = entry.service serviceType lifetime := by
  have hconstructors : entry.plain.constructors.map (·.lower) =
      entry.constructors.map (·.lower) := by
    show (entry.constructors.map (·.plain)).map _ = _
    rw [List.map_map]
    exact List.map_congr_left fun c _ => c.lower_plain
  rw [service, service, className_plain, hconstructors]
  rfl

/-- The plain form of a class declares the same services, or fails in the same way. -/
theorem services_plain : entry.plain.services = entry.services := by
  unfold services
  rw [markers_plain]
  -- the number of markers decides, and only a single one is looked at further
  match entry.markers with
  | [] => rfl
  | [(lifetime, attr)] =>
    simp only [List.map_cons, List.map_nil, AttributeEntry.serviceType?_plainMarker, service_plain]
  | first :: second :: more => simp only [List.map_cons, List.map_map, Function.comp_def]

/-- **A class declares the same as its plain form.** -/
theorem declares_plain : entry.plain.declares = entry.declares := by
  have hroots : entry.plain.scopeRoots = entry.scopeRoots := by
    rw [scopeRoots, scopeRoots, isScopeRoot_plain, className_plain]
    rfl
  have hfirst : entry.plain.markers.head?.map (·.1.markerName) =
      entry.markers.head?.map (·.1.markerName) := by
    rw [markers_plain, List.head?_map, Option.map_map]
    rfl
  unfold declares
  rw [hfirst, services_plain, hroots, isScopeRoot_plain, className_plain, markers_plain,
    List.isEmpty_map]

/-- **A class is lowered like its plain form**: reports name a class without blanks anyway. -/
theorem lower_plain : entry.plain.lower = entry.lower := by
  have hreport : ∀ fault : ClassFault, fault.report entry.plain = fault.report entry := by
    intro fault
    cases fault with
    | unnamed => rfl
    | missingServiceType | conflictingMarkers =>
      simp only [ClassFault.report, className_plain]
      rfl
  unfold lower
  simp only [declares_plain, hreport]

/-- A class without an attribute that counts is passed over. -/
theorem lower_of_plain_attributes_eq_nil {entry : ClassEntry} (h : entry.plain.attributes = []) :
    entry.lower = {} := by
  -- its plain form has neither a marker nor the tag
  rw [← lower_plain]
  apply lower_of_ignored
  · rw [markers, h]
    rfl
  · rintro ⟨attr, hattr, -⟩
    rw [h] at hattr
    exact absurd hattr List.not_mem_nil

end ClassEntry

/-! ## §6 — manifests -/

/-- **A manifest is lowered like its plain form.** Induction on the classes: one that is left out
has nothing to add. -/
theorem lower_plain (manifest : Manifest) : manifest.plain.lower = manifest.lower := by
  obtain ⟨classes⟩ := manifest
  induction classes with
  | nil => rfl
  | cons entry classes ih =>
    have hlower : Manifest.lower ⟨entry :: classes⟩ =
        entry.lower ++ Manifest.lower ⟨classes⟩ := rfl
    rw [hlower, ← ih]
    -- a class that is left out of the plain form is one that nothing looks at
    by_cases hnone : entry.plain.attributes = []
    · have hplain : Manifest.plain ⟨entry :: classes⟩ = Manifest.plain ⟨classes⟩ := by
        simp [Manifest.plain, hnone]
      rw [hplain, ClassEntry.lower_of_plain_attributes_eq_nil hnone]
      rfl
    · have hplain : Manifest.plain ⟨entry :: classes⟩ =
          ⟨entry.plain :: (Manifest.plain ⟨classes⟩).classes⟩ := by
        simp [Manifest.plain, hnone]
      rw [hplain, ← ClassEntry.lower_plain entry]
      rfl

end Manifest

/-- **Presentation makes no difference.** Manifests with the same plain form declare the same and are
reported alike, and compiling them gives the same output. -/
theorem lower_ignores_presentation {first second : Manifest} (h : first.plain = second.plain) :
    first.lower.batch = second.lower.batch ∧
      first.lower.diagnostics = second.lower.diagnostics ∧
      ∀ config, compileManifest first config = compileManifest second config := by
  have hlower : first.lower = second.lower := by
    calc
      first.lower = first.plain.lower := first.lower_plain.symm
      _ = second.plain.lower := by rw [h]
      _ = second.lower := second.lower_plain
  refine ⟨by rw [hlower], by rw [hlower], fun config => ?_⟩
  rw [compileManifest, compileManifest, hlower]

/-- Blanks, a qualifier, an ending, an attribute and an argument too many, and a class that nothing
looks at. -/
theorem lower_ignores_presentation_log :
    let inject : Manifest.ConstructorEntry :=
      { parameters := ["IClock"], attributes := [⟨"Constructor", []⟩] }
    let spare : Manifest :=
      ⟨[{ name := "Log"
          attributes := [⟨"SingletonService", ["typeof(ILog)"]⟩, ⟨"ScopeRoot", []⟩]
          constructors := [inject] }]⟩
    let lavishInject : Manifest.ConstructorEntry :=
      { parameters := [" IClock"]
        attributes := [⟨"Obsolete", []⟩, ⟨"Game.Constructor ", ["4"]⟩] }
    let lavish : Manifest :=
      ⟨[{ name := "", attributes := [⟨"Tool", []⟩] },
        { name := " Log\t"
          attributes := [⟨"Tool", ["1"]⟩,
            ⟨" global::Game.SingletonServiceAttribute", ["typeof( ILog )", "2"]⟩,
            ⟨"ScopeRootAttribute", ["3"]⟩]
          constructors := [lavishInject] }]⟩
    lavish.plain = spare.plain ∧ lavish ≠ spare ∧
      compileManifest lavish {} = compileManifest spare {} := by
  intro inject spare lavishInject lavish
  have h : lavish.plain = spare.plain := by decide +kernel
  exact ⟨h, by decide +kernel, (lower_ignores_presentation h).2.2 {}⟩

end Registrar
