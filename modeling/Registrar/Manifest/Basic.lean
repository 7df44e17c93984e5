import Registrar.Declaration

/-!
# Manifests

A manifest lists classes as a host reports them: each with its attributes and constructors, the
names and arguments as written. Nothing in it is checked yet.
-/

namespace Registrar

namespace Manifest

/-- An attribute: its name, and its arguments as written. -/
structure AttributeEntry where
  name : String
  arguments : List String := []
deriving DecidableEq, Repr, Inhabited

/-- A constructor. -/
structure ConstructorEntry where
  accessibility : Accessibility := .«public»
  isStatic : Bool := false
  /-- The names of the types of the parameters, in order. -/
  parameters : List String := []
  attributes : List AttributeEntry := []
  location : Option Location := none
deriving DecidableEq, Repr, Inhabited

/-- A class. -/
structure ClassEntry where
  name : String
  location : Option Location := none
  attributes : List AttributeEntry := []
  constructors : List ConstructorEntry := []
deriving DecidableEq, Repr, Inhabited

end Manifest

/-- The classes that a host reports. -/
structure Manifest where
  classes : List Manifest.ClassEntry := []
deriving DecidableEq, Repr, Inhabited

end Registrar
