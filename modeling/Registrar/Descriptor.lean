import Registrar.Lifetime
import Registrar.TypeName

/-!
# Descriptors

What is left of a service once its constructor is settled: all that its registration needs.
-/

namespace Registrar

/-- How one service is built and registered. -/
structure Descriptor where
  implementation : TypeName
  interface : TypeName
  lifetime : Lifetime
  /-- The types that the constructor asks for, in order. -/
  parameters : List TypeName
deriving DecidableEq, Repr, Inhabited

namespace Descriptor

/-- Both types have a name. -/
def isWellFormed (d : Descriptor) : Bool := !d.implementation.isEmpty && !d.interface.isEmpty

end Descriptor

end Registrar
