import Registrar.Decimal.Layout
import Registrar.Text.Quoted

/-!
# Why a text cannot be read

A text that is read as JSON can fail in three ways: it ends too early, it is no JSON, or it is JSON
of another shape than is asked for. The first problem from the left decides. What the problem is, is
said in words; where it is, by line and column, is not.
-/

namespace Registrar.Json

/-- What was being read when the text ended. -/
inductive Unfinished where
  | value
  | list
  | object
  | string
deriving DecidableEq, Repr

/-- A value that was found where another one is asked for. -/
inductive Found where
  | null
  | boolean (value : Bool)
  | integer (value : Int)
  /-- A number with a point or an exponent, or one that is too big for an integer, as its bits. -/
  | float (bits : UInt64)
  | string (value : String)
  | sequence
  | map
deriving DecidableEq, Repr

/-- Why a text cannot be read. -/
inductive Failure where
  /-- The text ended. -/
  | endOfText (during : Unfinished)
  /-- No value starts here. -/
  | expectedValue
  | expectedColon
  | expectedListEnd
  | expectedObjectEnd
  /-- Something starts like `true`, `false` or `null`. -/
  | expectedIdentifier
  | keyMustBeString
  | trailingComma
  | trailingCharacters
  | invalidNumber
  | numberOutOfRange
  | invalidEscape
  | controlCharacter
  /-- The second half of a surrogate pair is missing. -/
  | unfinishedPair
  /-- Half of a surrogate pair stands where it makes no sense. -/
  | loneSurrogate
  | invalidType (found : Found) (expected : String)
  | invalidValue (found : Found) (expected : String)
  /-- A structure written as a list ends before a member that has to be there. -/
  | invalidLength (length : Nat) (expected : String)
  | missingField (name : String)
  | duplicateField (name : String)
  | unknownVariant (name : String) (known : List String)
deriving DecidableEq, Repr

/-- The ways to fail. -/
inductive Failure.Category where
  /-- The text ended too early. -/
  | truncated
  /-- The text is no JSON. -/
  | malformed
  /-- The text is of another shape. -/
  | mistyped
deriving DecidableEq, Repr

/-- Floating-point numbers in messages: written out from 0.00001 up to below 10 ^ 16. -/
def floatLayout : Decimal.Layout := { minPositional := -5, maxPositional := 15, plusSign := "+" }

/-- A value in a message. -/
def Found.text : Found → String
  | null => "null"
  | boolean value => "boolean `" ++ (if value then "true" else "false") ++ "`"
  | integer value => "integer `" ++ toString value ++ "`"
  | float bits => "floating point `" ++ floatLayout.writeBits bits ++ "`"
  | string value => "string " ++ Text.quoted value
  | sequence => "sequence"
  | map => "map"

namespace Failure

def category : Failure → Category
  | endOfText _ => .truncated
  | invalidType .. | invalidValue .. | invalidLength .. | missingField _ | duplicateField _
  | unknownVariant .. => .mistyped
  | expectedValue | expectedColon | expectedListEnd | expectedObjectEnd | expectedIdentifier
  | keyMustBeString | trailingComma | trailingCharacters | invalidNumber | numberOutOfRange
  | invalidEscape | controlCharacter | unfinishedPair | loneSurrogate => .malformed

/-- A failure in words. -/
def message : Failure → String
  | endOfText .value => "EOF while parsing a value"
  | endOfText .list => "EOF while parsing a list"
  | endOfText .object => "EOF while parsing an object"
  | endOfText .string => "EOF while parsing a string"
  | expectedValue => "expected value"
  | expectedColon => "expected `:`"
  | expectedListEnd => "expected `,` or `]`"
  | expectedObjectEnd => "expected `,` or `\x7d`"
  | expectedIdentifier => "expected ident"
  | keyMustBeString => "key must be a string"
  | trailingComma => "trailing comma"
  | trailingCharacters => "trailing characters"
  | invalidNumber => "invalid number"
  | numberOutOfRange => "number out of range"
  | invalidEscape => "invalid escape"
  | controlCharacter =>
    "control character (\\u0000-\\u001F) found while parsing a string"
  | unfinishedPair => "unexpected end of hex escape"
  | loneSurrogate => "lone leading surrogate in hex escape"
  | invalidType found expected => "invalid type: " ++ found.text ++ ", expected " ++ expected
  | invalidValue found expected => "invalid value: " ++ found.text ++ ", expected " ++ expected
  | invalidLength length expected =>
    "invalid length " ++ toString length ++ ", expected " ++ expected
  | missingField name => "missing field `" ++ name ++ "`"
  | duplicateField name => "duplicate field `" ++ name ++ "`"
  | unknownVariant name known =>
    "unknown variant `" ++ name ++ "`, expected one of " ++
      ", ".intercalate (known.map fun k => "`" ++ k ++ "`")

end Failure

end Registrar.Json
