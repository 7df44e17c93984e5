import Registrar.Lifetime
import Registrar.Location
import Registrar.TypeName

/-!
# Declarations

What one pass starts from: the classes that are services, with the constructors they could be
built by, and the classes whose instances bound a scope. Attribute names are settled by then;
a service has its lifetime, and a constructor is marked or not.
-/

namespace Registrar

/-- Who may call a constructor. -/
inductive Accessibility where
  | «public»
  | «internal»
  | «protected»
  | protectedInternal
  | privateProtected
  | «private»
deriving DecidableEq, Repr, Hashable, Inhabited

/-- One constructor of a class. -/
structure Constructor where
  accessibility : Accessibility := .«public»
  isStatic : Bool := false
  /-- The types of the parameters, in order. -/
  parameters : List TypeName := []
  /-- Marked as the constructor to inject through. -/
  isMarked : Bool := false
  location : Option Location := none
deriving DecidableEq, Repr, Hashable, Inhabited

namespace Constructor

/-- How many parameters there are. -/
def arity (c : Constructor) : Nat := c.parameters.length

/-- The container may call it: an instance constructor that is not private. -/
def qualifies (c : Constructor) : Bool := c.accessibility ≠ .«private» && !c.isStatic

end Constructor

/-- A class that is registered under a service type. -/
structure Service where
  className : TypeName
  serviceType : TypeName
  lifetime : Lifetime
  constructors : List Constructor := []
  location : Option Location := none
deriving DecidableEq, Repr, Hashable, Inhabited

/-- A class whose instances each bound a scope. -/
structure ScopeRoot where
  className : TypeName
  location : Option Location := none
deriving DecidableEq, Repr, Hashable, Inhabited

/-- All declarations of one pass, in the order in which they were met. -/
structure Batch where
  services : List Service := []
  scopeRoots : List ScopeRoot := []
deriving DecidableEq, Repr, Hashable, Inhabited

namespace Batch

/-- Nothing is declared. -/
def isEmpty (batch : Batch) : Bool := batch.services.isEmpty && batch.scopeRoots.isEmpty

/-- Everything in `a`, then everything in `b`. -/
def append (a b : Batch) : Batch := ⟨a.services ++ b.services, a.scopeRoots ++ b.scopeRoots⟩

instance : Append Batch := ⟨append⟩

/-- A number that is the same for equal batches. -/
def fingerprint (batch : Batch) : UInt64 := hash batch

/-- Where the class that is declared first under this name stands. -/
def locate (batch : Batch) (name : TypeName) : Option Location :=
  (batch.services.find? (·.className = name)).bind (·.location)

end Batch

end Registrar
