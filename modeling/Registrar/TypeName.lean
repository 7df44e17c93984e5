import Registrar.Text.Blank
import Registrar.Text.Segment

/-!
# Type names

A type is known by the name its declaration shows, `global::Game.Repo<Game.User>`, kept as written
so that no name is ever taken for another one.
-/

namespace Registrar

/-- The name of a type, as displayed where the type is declared. -/
structure TypeName where
  /-- The name itself. -/
  text : String
deriving DecidableEq, Repr, Hashable, Inhabited

namespace TypeName

/-- The name that `text` writes; blanks at its ends are no part of a name. -/
def ofString (text : String) : TypeName := ⟨Text.trim text⟩

def isEmpty (name : TypeName) : Bool := name.text.isEmpty

/-- What divides the segments of a name. -/
def isSeparator (c : Char) : Bool := c = '.' || c = ':'

/-- The name up to its first generic argument list, less everything up to the last separator. -/
def simpleName (name : TypeName) : String :=
  String.ofList (Text.afterLast isSeparator (Text.beforeFirst (· = '<') name.text.toList))

/-- The names in the order of their code points. -/
def sort (names : List TypeName) : List TypeName := names.mergeSort fun a b => a.text ≤ b.text

instance : ToString TypeName := ⟨text⟩

theorem isEmpty_iff {name : TypeName} : name.isEmpty = true ↔ name.text = "" :=
  String.isEmpty_iff

/-- Naming a type by its own name again changes nothing. -/
theorem ofString_ofString (text : String) : ofString (ofString text).text = ofString text := by
  simp [ofString, Text.trim_trim]

end TypeName

end Registrar
