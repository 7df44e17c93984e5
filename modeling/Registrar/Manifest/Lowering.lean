import Registrar.Diagnostic.Basic
import Registrar.Manifest.Basic
import Registrar.Resolution

/-!
# From manifests to declarations

An attribute counts by the last segment of its name, with or without the ending `Attribute`. A class
with a lifetime marker is a service, a class tagged as a scope root is one, and a class may be both.
A class whose markers cannot be used is reported and declares nothing at all. What a class declares
does not depend on the other classes.
-/

namespace Registrar

namespace Manifest

def scopeRootTag : String := "ScopeRoot"

def constructorMarkers : List String := ["Constructor", "InjectionConstructor"]

/-- The part of an attribute's name by which it counts: the last segment, less the ending
`Attribute` unless nothing else is there. -/
def normalizeAttributeName (name : String) : String :=
  let simple := Text.afterLast TypeName.isSeparator (Text.trim name).toList
  String.ofList <|
    match Text.dropFinish? "Attribute".toList simple with
    | some (c :: rest) => c :: rest
    | _ => simple

namespace AttributeEntry

def simpleName (attr : AttributeEntry) : String := normalizeAttributeName attr.name

/-- The lifetime that the attribute gives, if it is a marker. -/
def lifetime? (attr : AttributeEntry) : Option Lifetime :=
  Lifetime.ofMarkerName? attr.simpleName

/-- What stands between `typeof(` and the closing parenthesis, or the whole text. -/
def unwrapTypeOf (cs : List Char) : List Char :=
  ((Text.dropStart? "typeof(".toList cs).bind (Text.dropFinish? [')'])).getD cs

def serviceType? (attr : AttributeEntry) : Option TypeName :=
  match attr.arguments with
  | [] => none
  | first :: _ =>
    let name := TypeName.ofString (String.ofList (unwrapTypeOf (Text.trimChars first.toList)))
    if name.isEmpty then none else some name

end AttributeEntry

/-- A constructor as declared. -/
def ConstructorEntry.lower (entry : ConstructorEntry) : Constructor :=
  { accessibility := entry.accessibility
    isStatic := entry.isStatic
    parameters := entry.parameters.map TypeName.ofString
    isMarked := entry.attributes.any (·.simpleName ∈ constructorMarkers)
    location := entry.location }

/-- Why a class with a marker or a tag declares nothing. -/
inductive ClassFault where
  /-- It has no name. The first marker is named, or the tag if there is no marker. -/
  | unnamed (marker : String)
  /-- Its marker names no service type. -/
  | missingServiceType (lifetime : Lifetime)
  /-- It has several markers. -/
  | conflictingMarkers (lifetimes : List Lifetime)
deriving DecidableEq, Repr

namespace ClassEntry

def markers (entry : ClassEntry) : List (Lifetime × AttributeEntry) :=
  entry.attributes.filterMap fun attr => attr.lifetime?.map (·, attr)

def isScopeRoot (entry : ClassEntry) : Bool :=
  entry.attributes.any (·.simpleName = scopeRootTag)

def className (entry : ClassEntry) : TypeName := .ofString entry.name

def service (entry : ClassEntry) (serviceType : TypeName) (lifetime : Lifetime) : Service :=
  { className := entry.className
    serviceType
    lifetime
    constructors := entry.constructors.map (·.lower)
    location := entry.location }

/-- The services that the markers of a class with a name declare: one, or none without a marker. -/
def services (entry : ClassEntry) : Except ClassFault (List Service) :=
  match entry.markers with
  | [] => .ok []
  | [(lifetime, attr)] =>
    match attr.serviceType? with
    | some serviceType => .ok [entry.service serviceType lifetime]
    | none => .error (.missingServiceType lifetime)
  | several => .error (.conflictingMarkers (several.map (·.1)))

def scopeRoots (entry : ClassEntry) : List ScopeRoot :=
  if entry.isScopeRoot then [{ className := entry.className, location := entry.location }] else []

def declares (entry : ClassEntry) : Except ClassFault Batch :=
  if entry.markers.isEmpty && !entry.isScopeRoot then .ok {}
  else if entry.className.isEmpty then
    .error (.unnamed ((entry.markers.head?.map (·.1.markerName)).getD scopeRootTag))
  else entry.services.map fun services => { services, scopeRoots := entry.scopeRoots }

end ClassEntry

/-- The diagnostic for a class that declares nothing. -/
def ClassFault.report (fault : ClassFault) (entry : ClassEntry) : Diagnostic :=
  match fault with
  | unnamed marker =>
    (Diagnostic.Finding.malformedAttributeArgument unnamedClassText marker
      "the class has no name").report entry.location
  | missingServiceType lifetime =>
    (Diagnostic.Finding.malformedAttributeArgument entry.className.simpleName lifetime.markerName
      "missing service type").report entry.location
  | conflictingMarkers lifetimes =>
    (Diagnostic.Finding.conflictingLifetimeMarkers entry.className
      (lifetimes.map (·.markerName))).report entry.location

/-- The declarations and the diagnostics of a manifest. -/
structure Lowered where
  batch : Batch := {}
  diagnostics : List Diagnostic := []
deriving DecidableEq, Repr

namespace Lowered

/-- Those of `a`, then those of `b`. -/
def append (a b : Lowered) : Lowered := ⟨a.batch ++ b.batch, a.diagnostics ++ b.diagnostics⟩

instance : Append Lowered := ⟨append⟩

end Lowered

/-- The declarations or the diagnostic of one class. -/
def ClassEntry.lower (entry : ClassEntry) : Lowered :=
  match entry.declares with
  | .ok batch => { batch }
  | .error fault => { diagnostics := [fault.report entry] }

end Manifest

/-- The declarations and the diagnostics of all classes, in the order of the classes. -/
def Manifest.lower (manifest : Manifest) : Manifest.Lowered :=
  (manifest.classes.map (·.lower)).foldr (· ++ ·) {}

end Registrar
