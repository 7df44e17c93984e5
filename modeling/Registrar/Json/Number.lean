import Registrar.Json.Parsed
import Registrar.Text.Digits

/-!
# Numbers in JSON

A number is read in two steps: as a literal, whose parts are runs of digits, and as the value that
the literal stands for. A literal without point and exponent is an integer while it fits into 64
bits. Any other is a floating-point number, which is made from as many of its digits as fit into 64
bits, and a power of ten.
-/

namespace Registrar.Json

/-- A number as written. -/
structure Literal where
  isNegative : Bool
  /-- The digits before the point. -/
  whole : List Char
  /-- The digits after the point; none when there is no point. -/
  fraction : List Char
  /-- Whether the exponent is negative, and its digits. -/
  exponent : Option (Bool × List Char)
deriving DecidableEq, Repr

/-- The digits before the point: a zero alone, or digits that do not start with a zero. `atEnd` is
said when the text ends where a digit is due. -/
def readWhole (atEnd : Failure) : Reader (List Char)
  | [] => .error atEnd
  | c :: rest =>
    if c = '0' then
      if rest.head?.any Char.isDigit then .error .invalidNumber
      else .ok (.ofChar ['0'] c rest)
    else if c.isDigit then
      .ok (.ofTaken c ⟨c :: rest.takeWhile Char.isDigit, rest.dropWhile Char.isDigit,
        length_dropWhile_le Char.isDigit rest⟩)
    else .error .invalidNumber

/-- A run of digits with at least one digit. -/
def readDigits (atEnd : Failure) : Reader (List Char)
  | [] => .error atEnd
  | c :: rest =>
    if c.isDigit then
      .ok (.ofTaken c ⟨c :: rest.takeWhile Char.isDigit, rest.dropWhile Char.isDigit,
        length_dropWhile_le Char.isDigit rest⟩)
    else .error .invalidNumber

/-- The point and the digits after it, if there is a point. -/
def readFraction (atEnd : Failure) (input : List Char) : Except Failure (Taken (List Char) input) :=
  match input with
  | '.' :: rest => (readDigits atEnd rest).map fun p => (Parsed.ofTaken '.' p.toTaken).toTaken
  | other => .ok (.nothing [] other)

/-- The sign of an exponent: whether it is negative. -/
def takeSign (input : List Char) : Taken Bool input :=
  match input with
  | '+' :: rest => (Parsed.ofChar false '+' rest).toTaken
  | '-' :: rest => (Parsed.ofChar true '-' rest).toTaken
  | other => .nothing false other

def readExponent (atEnd : Failure) (input : List Char) :
    Except Failure (Taken (Option (Bool × List Char)) input) :=
  match input with
  | [] => .ok (.nothing none [])
  | c :: rest =>
    if c = 'e' || c = 'E' then
      let sign := takeSign rest
      (readDigits atEnd sign.rest).map fun p =>
        ⟨some (sign.value, p.value), p.rest,
          Nat.le_succ_of_le (Nat.le_trans (Nat.le_of_lt p.shorter) sign.noLonger)⟩
    else .ok (.nothing none (c :: rest))

/-- A number after its sign. -/
def readUnsigned (atEnd : Failure) (isNegative : Bool) : Reader Literal := fun input => do
  let whole ← readWhole atEnd input
  let fraction ← readFraction atEnd whole.rest
  let exponent ← readExponent atEnd fraction.rest
  return ⟨⟨isNegative, whole.value, fraction.value, exponent.value⟩, exponent.rest,
    Nat.lt_of_le_of_lt (Nat.le_trans exponent.noLonger fraction.noLonger) whole.shorter⟩

/-- A number as written. `atEnd` is said when the text ends where a digit is due. -/
def readLiteral (atEnd : Failure) : Reader Literal
  | '-' :: rest => (readUnsigned atEnd true rest).afterChar '-'
  | input => readUnsigned atEnd false input

/-- The value of a number. -/
inductive Number where
  | integer (value : Int)
  /-- A floating-point number, as its bits. -/
  | float (bits : UInt64)
deriving DecidableEq, Repr

def Number.found : Number → Found
  | integer value => .integer value
  | float bits => .float bits

/-- Take digits into a significand while it fits into 64 bits. The answer is the significand and
the digits that are left out. -/
def takeDigits (significand : Nat) : List Char → Nat × List Char
  | [] => (significand, [])
  | c :: rest =>
    let next := significand * 10 + Text.digitValue c
    if next < Text.wordCount then takeDigits next rest else (significand, c :: rest)

def powerOfTen (exponent : Nat) : Float := Float.ofScientific 1 false exponent

/-- `significand * 10 ^ exponent` as a floating-point number, by one multiplication or division. A
small number that takes a greater power of ten than there is gets it by two divisions. -/
def scale (significand : Nat) (exponent : Int) : Except Failure Float :=
  let f := significand.toUInt64.toFloat
  if 0 ≤ exponent then
    if f == 0 then .ok f
    else if exponent ≤ 308 then
      let scaled := f * powerOfTen exponent.toNat
      if scaled.isInf then .error .numberOutOfRange else .ok scaled
    else .error .numberOutOfRange
  else if -308 ≤ exponent then .ok (f / powerOfTen exponent.natAbs)
  else if -616 ≤ exponent then .ok (f / powerOfTen 308 / powerOfTen (exponent + 308).natAbs)
  else .ok 0

namespace Literal

/-- The exponent as a number. -/
def exponentValue (l : Literal) : Int :=
  match l.exponent with
  | none => 0
  | some (isNegative, digits) =>
    let size : Int := Text.digitsValue digits
    if isNegative then -size else size

def floatValue (l : Literal) : Except Failure Number :=
  let whole := takeDigits 0 l.whole
  let all := takeDigits whole.1 l.fraction
  let places : Int := (l.fraction.length - all.2.length : Nat)
  (scale all.1 (whole.2.length - places + l.exponentValue)).map fun f =>
    .float (if l.isNegative then -f else f).toBits

/-- The literal as an integer, if it is written like one and fits into 64 bits, as a signed number
if it is negative. There is no negative zero among the integers. -/
def integer? (l : Literal) : Option Int :=
  let size := Text.digitsValue l.whole
  if l.fraction.isEmpty && l.exponent.isNone then
    if l.isNegative then
      if 0 < size ∧ size ≤ Text.wordCount / 2 then some (-size) else none
    else if size < Text.wordCount then some size else none
  else none

def value (l : Literal) : Except Failure Number :=
  match l.integer? with
  | some i => .ok (.integer i)
  | none => l.floatValue

end Literal

def readNumber : Reader Number := fun input =>
  (readLiteral (.endOfText .value) input).check (·.value)

end Registrar.Json
