import Registrar.Text.Alphanumeric
import Registrar.Text.Segment

/-!
# Parts of identifiers from type names

A type name may hold characters that no identifier can hold. What is left of it for an identifier
are its words, the longest runs of alphanumeric characters, with single underscores between them.
The alias `global::` at the front says nothing and is left out.
-/

namespace Registrar.Code

/-- The longest runs of alphanumeric characters. -/
def words (cs : List Char) : List (List Char) :=
  (Text.splitWhere (fun c => !Text.isAlphanumeric c) cs).filter (· ≠ [])

/-- The part of an identifier that stands for a type name without any word. -/
def wordlessPart : List Char := "service".toList

/-- The part of an identifier that stands for a type name. -/
def mangle (name : String) : String :=
  let cs := (Text.dropStart? "global::".toList name.toList).getD name.toList
  String.ofList <|
    match words cs with
    | [] => wordlessPart
    | ws => ['_'].intercalate ws

end Registrar.Code
