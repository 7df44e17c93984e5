import Registrar.Proofs.Manifest.Attributes
import Registrar.Proofs.Pass.Classes

/-!
# What becomes of a class

A manifest is lowered class by class, and seven rules that exclude each other say what becomes of
one class: it is passed over, it is reported and declares nothing at all, or it is not reported and
declares what it is marked and tagged as. So a class that is reported is registered only if another
class of its name is accepted.

* `ClassEntry.Outcome` : the rules.
* `ClassEntry.outcome_iff` : lowering one class follows them.
* `ClassByClass` : how a manifest is made up of its classes.
* `lower_class_by_class` : every manifest is.
-/

namespace Registrar.Manifest

/-! ## §1 — the rules -/

/-- The markers of a lifetime among some attributes, in order, each with its lifetime. -/
inductive Marks : List AttributeEntry → List (Lifetime × AttributeEntry) → Prop where
  | nil : Marks [] []
  | marker {attr : AttributeEntry} {lifetime : Lifetime} {attributes : List AttributeEntry}
      {markers : List (Lifetime × AttributeEntry)}
      (denotes : Denotes attr.name lifetime.markerName) (more : Marks attributes markers) :
      Marks (attr :: attributes) ((lifetime, attr) :: markers)
  | other {attr : AttributeEntry} {attributes : List AttributeEntry}
      {markers : List (Lifetime × AttributeEntry)}
      (denotes : ∀ lifetime : Lifetime, ¬ Denotes attr.name lifetime.markerName)
      (more : Marks attributes markers) : Marks (attr :: attributes) markers

/-- The constructor that an entry declares. -/
def ConstructorEntry.declared (entry : ConstructorEntry) : Constructor :=
  { accessibility := entry.accessibility
    isStatic := entry.isStatic
    parameters := entry.parameters.map fun parameter => ⟨Text.trim parameter⟩
    isMarked := decide (∃ attr ∈ entry.attributes,
      ∃ marker ∈ constructorMarkers, Denotes attr.name marker)
    location := entry.location }

namespace ClassEntry

variable (entry : ClassEntry)

/-- The class is tagged as a scope root. -/
def IsTagged : Prop := ∃ attr ∈ entry.attributes, Denotes attr.name scopeRootTag

instance : Decidable entry.IsTagged :=
  inferInstanceAs (Decidable (∃ attr ∈ entry.attributes, Denotes attr.name scopeRootTag))

/-- A class without a name is reported under its first marker, or under the tag. -/
def unnamedReport (marker : String) : Diagnostic :=
  { code := .malformedAttributeArgument
    severity := .error
    args := ["<unnamed>", marker, "the class has no name"]
    location := entry.location
    labels := []
    notes := []
    suggestions := [] }

/-- A class with one marker that names no service type is reported under that marker. -/
def missingTypeReport (lifetime : Lifetime) : Diagnostic :=
  { code := .malformedAttributeArgument
    severity := .error
    args := [(TypeName.mk (Text.trim entry.name)).simpleName, lifetime.markerName,
      "missing service type"]
    location := entry.location
    labels := []
    notes := []
    suggestions := [] }

/-- Several markers are all listed. -/
def conflictReport (lifetimes : List Lifetime) : Diagnostic :=
  { code := .conflictingLifetimeMarkers
    severity := .error
    args := [(TypeName.mk (Text.trim entry.name)).simpleName,
      ", ".intercalate (lifetimes.map (·.markerName))]
    location := entry.location
    labels := []
    notes := []
    suggestions := ["keep exactly one of [TransientService], [ScopedService], [SingletonService]"] }

/-- The service that a class with one marker declares. -/
def declaredService (lifetime : Lifetime) (serviceType : String) : Service :=
  { className := ⟨Text.trim entry.name⟩
    serviceType := ⟨serviceType⟩
    lifetime
    constructors := entry.constructors.map (·.declared)
    location := entry.location }

/-- The scope root that a class declares if it is tagged as one. -/
def declaredRoots : List ScopeRoot :=
  if entry.IsTagged then [{ className := ⟨Text.trim entry.name⟩, location := entry.location }]
  else []

end ClassEntry

/-- A class that is reported declares neither a service nor a scope root. -/
def rejected (d : Diagnostic) : Lowered := { diagnostics := [d] }

/-- What becomes of a class: what it declares, and what is reported of it. -/
inductive ClassEntry.Outcome (entry : ClassEntry) : Lowered → Prop where
  /-- Whether the class has a name does not matter. -/
  | ignored (unmarked : Marks entry.attributes []) (untagged : ¬ entry.IsTagged) :
      Outcome entry {}
  | unnamedMarked {lifetime : Lifetime} {attr : AttributeEntry}
      {more : List (Lifetime × AttributeEntry)} (unnamed : Text.trim entry.name = "")
      (marked : Marks entry.attributes ((lifetime, attr) :: more)) :
      Outcome entry (rejected (entry.unnamedReport lifetime.markerName))
  | unnamedTagged (unnamed : Text.trim entry.name = "") (unmarked : Marks entry.attributes [])
      (tagged : entry.IsTagged) : Outcome entry (rejected (entry.unnamedReport scopeRootTag))
  | conflicting {markers : List (Lifetime × AttributeEntry)} (named : Text.trim entry.name ≠ "")
      (marked : Marks entry.attributes markers) (several : 2 ≤ markers.length) :
      Outcome entry (rejected (entry.conflictReport (markers.map (·.1))))
  | missingType {lifetime : Lifetime} {attr : AttributeEntry} (named : Text.trim entry.name ≠ "")
      (marked : Marks entry.attributes [(lifetime, attr)])
      (missing : ∀ argument ∈ attr.arguments.head?, AttributeEntry.NamesType argument "") :
      Outcome entry (rejected (entry.missingTypeReport lifetime))
  | service {lifetime : Lifetime} {attr : AttributeEntry} {argument serviceType : String}
      (named : Text.trim entry.name ≠ "") (marked : Marks entry.attributes [(lifetime, attr)])
      (given : argument ∈ attr.arguments.head?)
      (names : AttributeEntry.NamesType argument serviceType) (nonempty : serviceType ≠ "") :
      Outcome entry { batch :=
        { services := [entry.declaredService lifetime serviceType]
          scopeRoots := entry.declaredRoots } }
  | scopeRoot (named : Text.trim entry.name ≠ "") (unmarked : Marks entry.attributes [])
      (tagged : entry.IsTagged) : Outcome entry { batch := { scopeRoots := entry.declaredRoots } }

/-! ## §2 — lowering one class -/

/-- The markers of a lifetime are found by going over the attributes. Induction on the rules in one
direction, on the attributes in the other. -/
theorem marks_iff {attributes : List AttributeEntry}
    {markers : List (Lifetime × AttributeEntry)} :
    Marks attributes markers ↔
      (attributes.filterMap fun attr => attr.lifetime?.map (·, attr)) = markers := by
  constructor
  · intro h
    induction h with
    | nil => rfl
    | marker denotes _ ih =>
      rw [List.filterMap_cons, AttributeEntry.lifetime?_eq_some_iff.mpr denotes, ih]
      rfl
    | other denotes _ ih =>
      rw [List.filterMap_cons, AttributeEntry.lifetime?_eq_none_iff.mpr denotes, ih]
      rfl
  · rintro rfl
    induction attributes with
    | nil => exact .nil
    | cons attr attributes ih =>
      rw [List.filterMap_cons]
      cases hlifetime : attr.lifetime? with
      | none => exact .other (AttributeEntry.lifetime?_eq_none_iff.mp hlifetime) ih
      | some lifetime => exact .marker (AttributeEntry.lifetime?_eq_some_iff.mp hlifetime) ih

theorem ConstructorEntry.lower_eq_declared (entry : ConstructorEntry) :
    entry.lower = entry.declared := by
  have hmarked : entry.lower.isMarked = entry.declared.isMarked := by
    rw [Bool.eq_iff_iff, isMarked_lower_iff, declared, decide_eq_true_eq]
  rw [Constructor.mk.injEq]
  exact ⟨rfl, rfl, rfl, hmarked, rfl⟩

namespace ClassEntry

variable {entry : ClassEntry}

theorem marks_attributes_iff {markers : List (Lifetime × AttributeEntry)} :
    Marks entry.attributes markers ↔ entry.markers = markers :=
  marks_iff

theorem isEmpty_className_iff : entry.className.isEmpty = true ↔ Text.trim entry.name = "" :=
  String.isEmpty_iff

theorem service_eq_declaredService (lifetime : Lifetime) (serviceType : TypeName) :
    entry.service serviceType lifetime = entry.declaredService lifetime serviceType.text := by
  have hconstructors : entry.constructors.map (·.lower) = entry.constructors.map (·.declared) :=
    List.map_congr_left fun c _ => c.lower_eq_declared
  rw [service, declaredService, hconstructors]
  rfl

/-- The scope roots of a class are the ones that it declares. -/
theorem scopeRoots_eq_declaredRoots : entry.scopeRoots = entry.declaredRoots := by
  have htagged : entry.isScopeRoot = true ↔ entry.IsTagged := isScopeRoot_iff
  unfold scopeRoots declaredRoots
  by_cases h : entry.IsTagged
  · rw [if_pos h, if_pos (htagged.mpr h)]
    rfl
  · rw [if_neg h, if_neg (mt htagged.mp h)]

/-- A class is passed over if it has neither a marker nor the tag. -/
theorem ignored_iff : (entry.markers.isEmpty && !entry.isScopeRoot) = true ↔
    entry.markers = [] ∧ ¬ entry.IsTagged := by
  have htagged : entry.isScopeRoot = true ↔ entry.IsTagged := isScopeRoot_iff
  rw [← htagged]
  simp

/-- A class with a marker or the tag is not passed over. -/
theorem not_ignored (recognised : entry.markers ≠ [] ∨ entry.IsTagged) :
    ¬ (entry.markers.isEmpty && !entry.isScopeRoot) = true := by
  rw [ignored_iff]
  rintro ⟨unmarked, untagged⟩
  rcases recognised with hmarkers | htagged
  · exact hmarkers unmarked
  · exact untagged htagged

theorem lower_of_ignored (unmarked : entry.markers = []) (untagged : ¬ entry.IsTagged) :
    entry.lower = {} := by
  unfold lower declares
  rw [if_pos (ignored_iff.mpr ⟨unmarked, untagged⟩)]

/-- A class without a name is reported, under its first marker if it has one. -/
theorem lower_of_unnamed (unnamed : Text.trim entry.name = "")
    (recognised : entry.markers ≠ [] ∨ entry.IsTagged) :
    entry.lower = rejected
      (entry.unnamedReport ((entry.markers.head?.map (·.1.markerName)).getD scopeRootTag)) := by
  unfold lower declares
  rw [if_neg (not_ignored recognised), if_pos (isEmpty_className_iff.mpr unnamed)]
  rfl

/-- A class with a name and with a marker or the tag declares what its markers make of it. -/
theorem lower_of_named (named : Text.trim entry.name ≠ "")
    (recognised : entry.markers ≠ [] ∨ entry.IsTagged) :
    entry.lower =
      match entry.services with
      | .ok services => { batch := { services, scopeRoots := entry.declaredRoots } }
      | .error fault => rejected (fault.report entry) := by
  unfold lower declares
  rw [if_neg (not_ignored recognised), if_neg (mt isEmpty_className_iff.mp named),
    scopeRoots_eq_declaredRoots]
  cases entry.services with
  | ok services => rfl
  | error fault => rfl

/-- A class with several markers is reported with all of them. -/
theorem lower_of_conflicting (named : Text.trim entry.name ≠ "")
    (several : 2 ≤ entry.markers.length) :
    entry.lower = rejected (entry.conflictReport (entry.markers.map (·.1))) := by
  obtain ⟨first, second, more, hmarkers⟩ := exists_cons_cons_of_two_le several
  -- two markers are enough for the conflict, whatever comes after them
  have hservices : entry.services = .error (.conflictingMarkers (entry.markers.map (·.1))) := by
    unfold services
    rw [hmarkers]
  rw [lower_of_named named (Or.inl (by simp [hmarkers])), hservices]
  rfl

variable {lifetime : Lifetime} {attr : AttributeEntry}

/-- A class with one marker declares a service if the marker names a type, and is reported
otherwise. -/
theorem lower_of_sole (named : Text.trim entry.name ≠ "")
    (sole : entry.markers = [(lifetime, attr)]) :
    entry.lower =
      match attr.serviceType? with
      | some serviceType =>
        { batch :=
          { services := [entry.declaredService lifetime serviceType.text]
            scopeRoots := entry.declaredRoots } }
      | none => rejected (entry.missingTypeReport lifetime) := by
  rw [lower_of_named named (Or.inl (by simp [sole]))]
  unfold services
  rw [sole]
  cases hserviceType : attr.serviceType? with
  | none =>
    simp only [hserviceType]
    rfl
  | some serviceType => simp only [hserviceType, service_eq_declaredService]

/-- A class with the tag only declares a scope root. -/
theorem lower_of_tagged (named : Text.trim entry.name ≠ "") (unmarked : entry.markers = [])
    (tagged : entry.IsTagged) :
    entry.lower = { batch := { scopeRoots := entry.declaredRoots } } := by
  rw [lower_of_named named (Or.inr tagged)]
  unfold services
  rw [unmarked]

/-- **Lowering a class follows the rules.** -/
theorem outcome_lower (entry : ClassEntry) : entry.Outcome entry.lower := by
  have hmarks : Marks entry.attributes entry.markers := marks_attributes_iff.mpr rfl
  -- the rules are told apart by the number of markers, then by the tag and the name
  cases hmarkers : entry.markers with
  | nil =>
    rw [hmarkers] at hmarks
    by_cases htagged : entry.IsTagged
    · by_cases hname : Text.trim entry.name = ""
      · rw [lower_of_unnamed hname (Or.inr htagged), hmarkers]
        exact .unnamedTagged hname hmarks htagged
      · rw [lower_of_tagged hname hmarkers htagged]
        exact .scopeRoot hname hmarks htagged
    · rw [lower_of_ignored hmarkers htagged]
      exact .ignored hmarks htagged
  | cons marker more =>
    obtain ⟨lifetime, attr⟩ := marker
    by_cases hname : Text.trim entry.name = ""
    · rw [lower_of_unnamed hname (Or.inl (by simp [hmarkers])), hmarkers]
      exact .unnamedMarked hname (hmarkers ▸ hmarks)
    · cases more with
      | nil =>
        rw [hmarkers] at hmarks
        rw [lower_of_sole hname hmarkers]
        cases hserviceType : attr.serviceType? with
        | none =>
          exact .missingType hname hmarks (AttributeEntry.serviceType?_eq_none_iff.mp hserviceType)
        | some serviceType =>
          obtain ⟨argument, hgiven, hnames, hnonempty⟩ :=
            AttributeEntry.serviceType?_eq_some_iff.mp hserviceType
          exact .service hname hmarks hgiven hnames hnonempty
      | cons second more =>
        have hseveral : 2 ≤ entry.markers.length := by simp [hmarkers]
        rw [lower_of_conflicting hname hseveral]
        exact .conflicting hname hmarks hseveral

/-- **The rules leave nothing open.** -/
theorem Outcome.lower_eq {lowered : Lowered} (h : entry.Outcome lowered) :
    entry.lower = lowered := by
  -- each rule says what the markers are, and so which branch is taken
  cases h with
  | ignored unmarked untagged => exact lower_of_ignored (marks_attributes_iff.mp unmarked) untagged
  | unnamedMarked unnamed marked =>
    have hmarkers := marks_attributes_iff.mp marked
    rw [lower_of_unnamed unnamed (Or.inl (by simp [hmarkers])), hmarkers]
    rfl
  | unnamedTagged unnamed unmarked tagged =>
    rw [lower_of_unnamed unnamed (Or.inr tagged), marks_attributes_iff.mp unmarked]
    rfl
  | conflicting named marked several =>
    obtain rfl := marks_attributes_iff.mp marked
    exact lower_of_conflicting named several
  | missingType named marked missing =>
    rw [lower_of_sole named (marks_attributes_iff.mp marked),
      AttributeEntry.serviceType?_eq_none_iff.mpr missing]
  | @service lifetime attr argument serviceType named marked given names nonempty =>
    have hsome : attr.serviceType? = some ⟨serviceType⟩ :=
      AttributeEntry.serviceType?_eq_some_iff.mpr ⟨argument, given, names, nonempty⟩
    rw [lower_of_sole named (marks_attributes_iff.mp marked), hsome]
  | scopeRoot named unmarked tagged =>
    exact lower_of_tagged named (marks_attributes_iff.mp unmarked) tagged

theorem outcome_iff {lowered : Lowered} : entry.Outcome lowered ↔ entry.lower = lowered :=
  ⟨Outcome.lower_eq, fun h => h ▸ entry.outcome_lower⟩

end ClassEntry

/-! ## §3 — all classes -/

/-- How a manifest is made up of its classes: each has an outcome of its own, and what they declare
and what is reported of them stands in the order of the classes. -/
structure ClassByClass (manifest : Manifest) (results : List Lowered) : Prop where
  outcomes : List.Forall₂ ClassEntry.Outcome manifest.classes results
  services : manifest.lower.batch.services = results.flatMap (·.batch.services)
  scopeRoots : manifest.lower.batch.scopeRoots = results.flatMap (·.batch.scopeRoots)
  diagnostics : manifest.lower.diagnostics = results.flatMap (·.diagnostics)

/-- Every manifest is made up of what its classes are lowered to. -/
theorem classByClass_lower (manifest : Manifest) :
    ClassByClass manifest (manifest.classes.map (·.lower)) := by
  obtain ⟨classes⟩ := manifest
  -- induction on the classes: the first one stands in front of all that the others give
  induction classes with
  | nil => exact ⟨.nil, rfl, rfl, rfl⟩
  | cons entry classes ih =>
    refine ⟨.cons entry.outcome_lower ih.outcomes, ?_, ?_, ?_⟩
    · rw [List.map_cons, List.flatMap_cons, ← ih.services]
      rfl
    · rw [List.map_cons, List.flatMap_cons, ← ih.scopeRoots]
      rfl
    · rw [List.map_cons, List.flatMap_cons, ← ih.diagnostics]
      rfl

theorem mem_lower_services_iff {manifest : Manifest} {service : Service} :
    service ∈ manifest.lower.batch.services ↔
      ∃ entry ∈ manifest.classes, service ∈ entry.lower.batch.services := by
  rw [(classByClass_lower manifest).services, List.mem_flatMap]
  simp only [List.mem_map, exists_exists_and_eq_and]

/-- The class declares a service. -/
def ClassEntry.IsAccepted (entry : ClassEntry) : Prop :=
  ∃ service roots, entry.Outcome { batch := { services := [service], scopeRoots := roots } }

/-- The class is reported. -/
def ClassEntry.IsRejected (entry : ClassEntry) : Prop := ∃ d, entry.Outcome (rejected d)

/-- A class that declares a service is accepted, and the service has its name. -/
theorem ClassEntry.Outcome.isAccepted_of_mem {entry : ClassEntry} {lowered : Lowered}
    (h : entry.Outcome lowered) {service : Service} (hservice : service ∈ lowered.batch.services) :
    entry.IsAccepted ∧ service.className = entry.className := by
  cases h with
  | ignored | unnamedMarked | unnamedTagged | conflicting | missingType | scopeRoot =>
    exact absurd hservice List.not_mem_nil
  | service named marked given names nonempty =>
    obtain rfl := List.mem_singleton.mp hservice
    exact ⟨⟨_, _, .service named marked given names nonempty⟩, rfl⟩

/-- What is registered is what a declared service resolves to. -/
theorem mem_compileManifest_descriptors_iff {manifest : Manifest} {config : Config}
    {d : Descriptor} :
    d ∈ (compileManifest manifest config).descriptors ↔
      ∃ service ∈ manifest.lower.batch.services, service.outcome config.markerPolicy = .ok d :=
  mem_compile_descriptors_iff

/-- What is registered has the name of a class that is accepted. -/
theorem exists_isAccepted_of_mem_descriptors {manifest : Manifest} {config : Config}
    {d : Descriptor} (h : d ∈ (compileManifest manifest config).descriptors) :
    ∃ entry ∈ manifest.classes, entry.IsAccepted ∧ d.implementation = entry.className := by
  obtain ⟨service, hservice, houtcome⟩ := mem_compileManifest_descriptors_iff.mp h
  obtain ⟨entry, hentry, hdeclares⟩ := mem_lower_services_iff.mp hservice
  obtain ⟨haccepted, hname⟩ := entry.outcome_lower.isAccepted_of_mem hdeclares
  refine ⟨entry, hentry, haccepted, ?_⟩
  rw [Service.implementation_of_outcome_eq_ok houtcome, hname]

/-- **A manifest is lowered class by class.** Each class has one outcome, by the rules and whatever
else is in the manifest; the declarations and the diagnostics of the classes are put together in
order, so those of a manifest followed by another one follow each other. A class that is reported is
not registered, unless another class of its name is accepted. -/
theorem lower_class_by_class (manifest : Manifest) :
    (∃ results, ClassByClass manifest results) ∧
    (∀ entry : ClassEntry, ∃! lowered, entry.Outcome lowered) ∧
    (∀ more : Manifest, ∀ both : Manifest, both.classes = manifest.classes ++ more.classes →
      both.lower.batch.services = manifest.lower.batch.services ++ more.lower.batch.services ∧
      both.lower.batch.scopeRoots =
        manifest.lower.batch.scopeRoots ++ more.lower.batch.scopeRoots ∧
      both.lower.diagnostics = manifest.lower.diagnostics ++ more.lower.diagnostics) ∧
    ∀ entry ∈ manifest.classes, entry.IsRejected → ∀ config : Config,
      ∀ d ∈ (compileManifest manifest config).descriptors, d.implementation = entry.className →
        ∃ other ∈ manifest.classes, other ≠ entry ∧ other.IsAccepted ∧
          other.className = entry.className := by
  refine ⟨⟨_, classByClass_lower manifest⟩, ?_, ?_, ?_⟩
  · intro entry
    exact ⟨entry.lower, entry.outcome_lower, fun lowered h => h.lower_eq.symm⟩
  · intro more both hboth
    have hparts := classByClass_lower both
    rw [hboth, List.map_append] at hparts
    refine ⟨?_, ?_, ?_⟩
    · rw [hparts.services, List.flatMap_append, ← (classByClass_lower manifest).services,
        ← (classByClass_lower more).services]
    · rw [hparts.scopeRoots, List.flatMap_append, ← (classByClass_lower manifest).scopeRoots,
        ← (classByClass_lower more).scopeRoots]
    · rw [hparts.diagnostics, List.flatMap_append, ← (classByClass_lower manifest).diagnostics,
        ← (classByClass_lower more).diagnostics]
  · rintro entry hentry ⟨report, hreport⟩ config d hd hname
    obtain ⟨other, hother, haccepted, hname'⟩ := exists_isAccepted_of_mem_descriptors hd
    refine ⟨other, hother, ?_, haccepted, by rw [← hname', hname]⟩
    -- a class cannot be accepted and reported
    rintro rfl
    obtain ⟨service, roots, haccepted⟩ := haccepted
    have heq := hreport.lower_eq.symm.trans haccepted.lower_eq
    exact absurd (congrArg Lowered.diagnostics heq) (by simp [rejected])

/-- A class with two markers and the tag, and another one of its name. -/
theorem lower_class_by_class_twice :
    let log : AttributeEntry := ⟨"Game.SingletonServiceAttribute", ["typeof( ILog )"]⟩
    let broken : ClassEntry := { name := "Log", attributes := [log, ⟨"ScopeRoot", []⟩, log] }
    let sound : ClassEntry := { name := " Log ", attributes := [log], constructors := [{}] }
    let descriptor : Descriptor := ⟨⟨"Log"⟩, ⟨"ILog"⟩, .singleton, []⟩
    broken.IsRejected ∧ descriptor ∈ (compileManifest ⟨[broken, sound]⟩ {}).descriptors ∧
      ∃ other ∈ [broken, sound], other ≠ broken ∧ other.IsAccepted ∧
        other.className = broken.className := by
  intro log broken sound descriptor
  have hbroken : broken.IsRejected :=
    ⟨broken.conflictReport [.singleton, .singleton],
      ClassEntry.outcome_iff.mpr (by decide +kernel)⟩
  have hdescriptor : descriptor ∈ (compileManifest ⟨[broken, sound]⟩ {}).descriptors := by
    let service : Service := ⟨⟨"Log"⟩, ⟨"ILog"⟩, .singleton, [{}], none⟩
    have hservice : service ∈ sound.lower.batch.services := by decide +kernel
    have hmem : service ∈ (Manifest.lower ⟨[broken, sound]⟩).batch.services :=
      mem_lower_services_iff.mpr ⟨sound, by simp, hservice⟩
    exact mem_compileManifest_descriptors_iff.mpr ⟨service, hmem, rfl⟩
  have hname : descriptor.implementation = broken.className := by decide +kernel
  exact ⟨hbroken, hdescriptor, (lower_class_by_class ⟨[broken, sound]⟩).2.2.2 broken
    List.mem_cons_self hbroken {} descriptor hdescriptor hname⟩

end Registrar.Manifest
