import Registrar.Json.Reader
import Registrar.Manifest.Basic

/-!
# Manifests as JSON

The names of the members are part of the format. A class and an attribute have to have a name, and
a location has to be complete; everything else may be left out.
-/

namespace Registrar.Manifest

open Registrar.Json

/-- How accessibilities are called. -/
def accessibilityNames : List (String × Accessibility) :=
  [("public", .«public»), ("internal", .«internal»), ("protected", .«protected»),
    ("protected_internal", .protectedInternal), ("private_protected", .privateProtected),
    ("private", .«private»)]

def required {α σ : Type} (name : String) (reader : Reader α) (set : σ → α → σ) : Member σ :=
  { name, isRequired := true, read := fun input => (reader input).mapValue fun a s => set s a }

/-- A member that may be left out. -/
def optional {α σ : Type} (name : String) (reader : Reader α) (set : σ → α → σ) : Member σ :=
  { name, isRequired := false, read := fun input => (reader input).mapValue fun a s => set s a }

def locationMembers : List (Member Location) :=
  [required "file" readString fun l file => { l with file },
    required "line" readUInt32 fun l line => { l with line },
    required "column" readUInt32 fun l column => { l with column }]

def readLocation : Reader Location := readStructure "Location" locationMembers default

def attributeMembers : List (Member AttributeEntry) :=
  [required "name" readString fun a name => { a with name },
    optional "arguments" (readList readString) fun a arguments => { a with arguments }]

def readAttribute : Reader AttributeEntry :=
  readStructure "AttributeEntry" attributeMembers { name := "" }

def constructorMembers : List (Member ConstructorEntry) :=
  [optional "accessibility" (readVariant accessibilityNames) fun c accessibility =>
      { c with accessibility },
    optional "is_static" readBool fun c isStatic => { c with isStatic },
    optional "parameters" (readList readString) fun c parameters => { c with parameters },
    optional "attributes" (readList readAttribute) fun c attributes => { c with attributes },
    optional "location" (readOptional readLocation) fun c location => { c with location }]

def readConstructor : Reader ConstructorEntry :=
  readStructure "ConstructorEntry" constructorMembers {}

def classMembers : List (Member ClassEntry) :=
  [required "name" readString fun c name => { c with name },
    optional "location" (readOptional readLocation) fun c location => { c with location },
    optional "attributes" (readList readAttribute) fun c attributes => { c with attributes },
    optional "constructors" (readList readConstructor) fun c constructors =>
      { c with constructors }]

def readClass : Reader ClassEntry := readStructure "ClassEntry" classMembers { name := "" }

def members : List (Member Manifest) :=
  [optional "classes" (readList readClass) fun _ classes => { classes }]

def ofJson (text : String) : Except Failure Manifest :=
  readAll (readStructure "Manifest" members {}) text

end Registrar.Manifest
