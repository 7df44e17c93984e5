import Mathlib.Data.Rat.Defs
import Mathlib.Algebra.Order.Field.Rat
import Registrar.Json.Number

/-!
# The grammar of JSON

What a JSON text stands for, by rules that say nothing of how a text is read or written. The rules
go from the left: an input spells a value if the value is written at its front, and the relation
also names the rest, what comes after the value. White space may stand before every token.

* `Value` : what a text stands for.
* `Spells` : the rules for values, lists and objects.
* `Value.IsText` : a whole text stands for a value.
-/

namespace Registrar.Json

/-- What a JSON text stands for. An object keeps its members in the order in which they stand. -/
inductive Value where
  | null
  | boolean (value : Bool)
  | number (value : ℚ)
  | string (text : String)
  | array (items : List Value)
  | object (members : List (String × Value))

/-! ## Strings -/

/-- Four hexadecimal digits of either case, and their value. -/
inductive FourDigits : List Char → Nat → Prop where
  | mk {a b c d : Char} {i j k l : Nat} (ha : Text.hexValue? a = some i)
      (hb : Text.hexValue? b = some j) (hc : Text.hexValue? c = some k)
      (hd : Text.hexValue? d = some l) :
      FourDigits [a, b, c, d] (((i * 16 + j) * 16 + k) * 16 + l)

/-- The characters that have an escape sequence of a backslash and one letter, after the letter. -/
def letterEscapes : List (Char × Char) :=
  [('"', '"'), ('\\', '\\'), ('/', '/'), ('b', '\x08'), ('f', '\x0c'), ('n', '\n'), ('r', '\r'),
    ('t', '\t')]

/-- The ways to write one character of a string. A character beyond U+FFFF is escaped as a pair of
surrogates. -/
inductive SpellsChar : Char → List Char → Prop where
  | plain {c : Char} (hquote : c ≠ '"') (hbackslash : c ≠ '\\') (hcontrol : 0x20 ≤ c.toNat) :
      SpellsChar c [c]
  | letter {c letter : Char} (h : (letter, c) ∈ letterEscapes) : SpellsChar c ['\\', letter]
  | codePoint {c : Char} {digits : List Char} (h : FourDigits digits c.toNat) :
      SpellsChar c ('\\' :: 'u' :: digits)
  | pair {c : Char} {first second : List Char} {high low : Nat} (hfirst : FourDigits first high)
      (hsecond : FourDigits second low) (hhigh : 0xD800 ≤ high ∧ high < 0xDC00)
      (hlow : 0xDC00 ≤ low ∧ low < 0xE000)
      (hc : c.toNat = 0x10000 + (high - 0xD800) * 0x400 + (low - 0xDC00)) :
      SpellsChar c ('\\' :: 'u' :: first ++ '\\' :: 'u' :: second)

/-- The characters of a string and the quote that closes it. -/
inductive SpellsChars : List Char → List Char → List Char → Prop where
  | close {rest : List Char} : SpellsChars [] ('"' :: rest) rest
  | char {c : Char} {cs written input rest : List Char} (hc : SpellsChar c written)
      (hcs : SpellsChars cs input rest) : SpellsChars (c :: cs) (written ++ input) rest

/-! ## Numbers -/

namespace Literal

/-- A literal is made of digits where it has to be, and has no needless zero in front. -/
structure IsProper (l : Literal) : Prop where
  whole_ne_nil : l.whole ≠ []
  whole_digits : ∀ c ∈ l.whole, c.isDigit = true
  whole_zero : l.whole.head? = some '0' → l.whole = ['0']
  fraction_digits : ∀ c ∈ l.fraction, c.isDigit = true
  exponent_digits : ∀ e ∈ l.exponent, e.2 ≠ [] ∧ ∀ c ∈ e.2, c.isDigit = true

/-- The exponent of a literal as written: `e` in either case, and a sign, which may be left out if
it is a plus sign. -/
inductive SpellsExponent : Option (Bool × List Char) → List Char → Prop where
  | none : SpellsExponent none []
  | unsigned {e : Char} {digits : List Char} (he : e = 'e' ∨ e = 'E') :
      SpellsExponent (some (false, digits)) (e :: digits)
  | plus {e : Char} {digits : List Char} (he : e = 'e' ∨ e = 'E') :
      SpellsExponent (some (false, digits)) (e :: '+' :: digits)
  | minus {e : Char} {digits : List Char} (he : e = 'e' ∨ e = 'E') :
      SpellsExponent (some (true, digits)) (e :: '-' :: digits)

/-- The sign of a literal as written. -/
def signText (l : Literal) : List Char := if l.isNegative then ['-'] else []

/-- The fraction of a literal as written. -/
def fractionText (l : Literal) : List Char :=
  match l.fraction with
  | [] => []
  | digits => '.' :: digits

/-- The number that a literal stands for. -/
def rational (l : Literal) : ℚ :=
  (if l.isNegative then -1 else 1) * Text.digitsValue (l.whole ++ l.fraction) *
    10 ^ (l.exponentValue - l.fraction.length)

end Literal

/-- A literal at the front of an input. -/
inductive SpellsNumber : ℚ → List Char → List Char → Prop where
  | mk {l : Literal} {exponent rest : List Char} (hl : l.IsProper)
      (he : Literal.SpellsExponent l.exponent exponent) :
      SpellsNumber l.rational (l.signText ++ l.whole ++ l.fractionText ++ exponent ++ rest) rest

/-! ## Values -/

/-- A token of one character. -/
inductive Token (c : Char) : List Char → List Char → Prop where
  | here {rest : List Char} : Token c (c :: rest) rest
  | blank {b : Char} {input rest : List Char} (hb : isJsonBlank b = true)
      (h : Token c input rest) : Token c (b :: input) rest

mutual

/-- A value at the front of an input, and the rest of the input. -/
inductive Spells : Value → List Char → List Char → Prop where
  | blank {b : Char} {v : Value} {input rest : List Char} (hb : isJsonBlank b = true)
      (h : Spells v input rest) : Spells v (b :: input) rest
  | null {rest : List Char} : Spells .null ('n' :: 'u' :: 'l' :: 'l' :: rest) rest
  | true {rest : List Char} : Spells (.boolean true) ('t' :: 'r' :: 'u' :: 'e' :: rest) rest
  | false {rest : List Char} :
      Spells (.boolean false) ('f' :: 'a' :: 'l' :: 's' :: 'e' :: rest) rest
  | number {q : ℚ} {input rest : List Char} (h : SpellsNumber q input rest) :
      Spells (.number q) input rest
  | string {text : String} {input rest : List Char} (h : SpellsChars text.toList input rest) :
      Spells (.string text) ('"' :: input) rest
  | array {items : List Value} {input rest : List Char} (h : SpellsItems items input rest) :
      Spells (.array items) ('[' :: input) rest
  | object {members : List (String × Value)} {input rest : List Char}
      (h : SpellsMembers members input rest) : Spells (.object members) ('\x7b' :: input) rest

/-- The items of a list and the bracket that closes it. -/
inductive SpellsItems : List Value → List Char → List Char → Prop where
  | none {input rest : List Char} (h : Token ']' input rest) : SpellsItems [] input rest
  | some {items : List Value} {input rest : List Char} (h : SpellsSomeItems items input rest) :
      SpellsItems items input rest

/-- At least one item, with commas between them, and the bracket that closes the list. -/
inductive SpellsSomeItems : List Value → List Char → List Char → Prop where
  | last {v : Value} {input after rest : List Char} (hv : Spells v input after)
      (hclose : Token ']' after rest) : SpellsSomeItems [v] input rest
  | more {v : Value} {items : List Value} {input after next rest : List Char}
      (hv : Spells v input after) (hcomma : Token ',' after next)
      (hitems : SpellsSomeItems items next rest) : SpellsSomeItems (v :: items) input rest

/-- The members of an object and the brace that closes it. -/
inductive SpellsMembers : List (String × Value) → List Char → List Char → Prop where
  | none {input rest : List Char} (h : Token '\x7d' input rest) : SpellsMembers [] input rest
  | some {members : List (String × Value)} {input rest : List Char}
      (h : SpellsSomeMembers members input rest) : SpellsMembers members input rest

/-- At least one member, with commas between them, and the brace that closes the object. -/
inductive SpellsSomeMembers : List (String × Value) → List Char → List Char → Prop where
  | last {key : String} {v : Value} {input name colon value after rest : List Char}
      (hquote : Token '"' input name) (hname : SpellsChars key.toList name colon)
      (hcolon : Token ':' colon value) (hv : Spells v value after)
      (hclose : Token '\x7d' after rest) : SpellsSomeMembers [(key, v)] input rest
  | more {key : String} {v : Value} {members : List (String × Value)}
      {input name colon value after next rest : List Char}
      (hquote : Token '"' input name) (hname : SpellsChars key.toList name colon)
      (hcolon : Token ':' colon value) (hv : Spells v value after)
      (hcomma : Token ',' after next) (hmembers : SpellsSomeMembers members next rest) :
      SpellsSomeMembers ((key, v) :: members) input rest

end

/-- A whole text stands for a value if nothing but white space comes after it. -/
def Value.IsText (v : Value) (text : String) : Prop :=
  ∃ rest, Spells v text.toList rest ∧ ∀ c ∈ rest, isJsonBlank c = true

end Registrar.Json
