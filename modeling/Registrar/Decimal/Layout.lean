import Registrar.Decimal.Shortest

/-!
# Writing decimals

How a chosen decimal is laid out is a matter of the format it is written in, and not of the number:
a `Layout` says between which magnitudes the digits stand at their places, and how the exponent
looks elsewhere.
-/

namespace Registrar.Decimal

/-- A format for floating-point numbers. -/
structure Layout where
  /-- The exponents of the first digit between which no exponent is written. -/
  minPositional : Int
  maxPositional : Int
  /-- The sign of an exponent that is not negative. -/
  plusSign : String
deriving DecidableEq, Repr

namespace Layout

/-- Digits with a point after the first one, and an exponent. -/
def withExponent (layout : Layout) (digits : List Char) (exponent : Int) : List Char :=
  let mantissa :=
    match digits with
    | [] => ['0']
    | [d] => [d]
    | d :: rest => d :: '.' :: rest
  mantissa ++ ['e'] ++ (if exponent < 0 then ['-'] else layout.plusSign.toList) ++
    Nat.toDigits 10 exponent.natAbs

/-- Digits at their places; a whole number ends in `.0`. -/
def positional (digits : List Char) (exponent : Int) : List Char :=
  if 0 ≤ exponent then digits ++ List.replicate exponent.toNat '0' ++ ['.', '0']
  else
    let places := exponent.natAbs
    if digits.length ≤ places then
      ['0', '.'] ++ List.replicate (places - digits.length) '0' ++ digits
    else digits.take (digits.length - places) ++ ['.'] ++ digits.drop (digits.length - places)

/-- A decimal in a format. -/
def write (layout : Layout) (d : Value) : List Char :=
  let digits := Nat.toDigits 10 d.digits
  let first := d.exponent + digits.length - 1
  if layout.minPositional ≤ first ∧ first ≤ layout.maxPositional then positional digits d.exponent
  else layout.withExponent digits first

/-- The 64-bit number with these bits, in a format. -/
def writeBits (layout : Layout) (bits : UInt64) : String :=
  let b := Binary.ofBits bits
  let text := if b.mantissa = 0 then positional ['0'] 0 else layout.write b.shortest
  String.ofList (if isNegative bits then '-' :: text else text)

end Layout

end Registrar.Decimal
