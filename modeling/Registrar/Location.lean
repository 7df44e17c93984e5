/-!
# Places in source text
-/

namespace Registrar

/-- Where a declaration stands; lines and columns count from one. -/
structure Location where
  file : String
  line : UInt32
  column : UInt32
deriving DecidableEq, Repr, Hashable, Inhabited

namespace Location

/-- A place as `file:line:column`. -/
def text (location : Location) : String :=
  location.file ++ ":" ++ toString location.line.toNat ++ ":" ++ toString location.column.toNat

instance : ToString Location := ⟨text⟩

end Location

end Registrar
