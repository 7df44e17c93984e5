/-!
# The shortest decimal that reads back

A binary floating-point number stands for all real numbers that round to it. Of the decimals among
these, one with the fewest digits is chosen, and of those the one nearest to the number; of two that
are equally near, the one whose last digit is even. All comparisons are made in exact arithmetic on
natural numbers.
-/

namespace Registrar.Decimal

/-- A positive number `mantissa * 2 ^ exponent` and how far the numbers reach that round to it. -/
structure Binary where
  mantissa : Nat
  exponent : Int
  /-- The number below is only half as far away as the one above. -/
  isNarrowBelow : Bool
deriving DecidableEq, Repr

/-- The absolute value that the bits of a finite 64-bit number stand for. -/
def Binary.ofBits (bits : UInt64) : Binary :=
  let fraction := bits.toNat % 0x10000000000000
  let biased := bits.toNat / 0x10000000000000 % 0x800
  if biased = 0 then ⟨fraction, -1074, false⟩
  else ⟨0x10000000000000 + fraction, Int.ofNat biased - 1075, fraction = 0 && 1 < biased⟩

/-- The sign that the bits of a 64-bit number stand for. -/
def isNegative (bits : UInt64) : Bool := 0x8000000000000000 ≤ bits.toNat

/-- A decimal number `digits * 10 ^ exponent`. -/
structure Value where
  digits : Nat
  exponent : Int
deriving DecidableEq, Repr

/-- The same number without zeros at the end of its digits. -/
def Value.trimZeros (d : Value) : Value :=
  if h : d.digits ≠ 0 ∧ d.digits % 10 = 0 then
    have : d.digits / 10 < d.digits := Nat.div_lt_self (Nat.pos_of_ne_zero h.1) (by decide)
    Value.trimZeros ⟨d.digits / 10, d.exponent + 1⟩
  else d
termination_by d.digits

/-- The power of two with this exponent, or one if the exponent is negative. -/
def twos (exponent : Int) : Nat := Nat.pow 2 exponent.toNat

/-- The power of ten with this exponent, or one if the exponent is negative. -/
def tens (exponent : Int) : Nat := Nat.pow 10 exponent.toNat

/-- `a * 2 ^ i ≤ b * 10 ^ j`. -/
def leDecimal (a : Nat) (i : Int) (b : Nat) (j : Int) : Bool :=
  a * twos i * tens (-j) ≤ b * tens j * twos (-i)

/-- `b * 10 ^ j ≤ a * 2 ^ i`. -/
def geDecimal (a : Nat) (i : Int) (b : Nat) (j : Int) : Bool :=
  b * tens j * twos (-i) ≤ a * twos i * tens (-j)

namespace Binary

/-- Lower end of the numbers that round to `b`, in quarters of a unit of its mantissa. -/
def lowQuarters (b : Binary) : Nat := 4 * b.mantissa - (if b.isNarrowBelow then 1 else 2)

/-- Upper end of the numbers that round to `b`, in quarters of a unit of its mantissa. -/
def highQuarters (b : Binary) : Nat := 4 * b.mantissa + 2

/-- `d` rounds to `b`. The ends of the range do so when the mantissa is even. -/
def isReadBack (b : Binary) (d : Value) : Bool :=
  let i := b.exponent - 2
  if b.mantissa % 2 = 0 then
    leDecimal b.lowQuarters i d.digits d.exponent && geDecimal b.highQuarters i d.digits d.exponent
  else
    !geDecimal b.lowQuarters i d.digits d.exponent && !leDecimal b.highQuarters i d.digits d.exponent

/-- The greatest multiple of `10 ^ j` that is at most `b`. -/
def floorAt (b : Binary) (j : Int) : Value :=
  ⟨b.mantissa * twos b.exponent * tens (-j) / (tens j * twos (-b.exponent)), j⟩

/-- `low`, a multiple of `10 ^ j` at or below `b`, is preferred to the next multiple: it is nearer
to `b`, or it is equally near and its last digit is even. -/
def prefersBelow (b : Binary) (low : Value) : Bool :=
  leDecimal (2 * b.mantissa) b.exponent (2 * low.digits + 1) low.exponent &&
    (low.digits % 2 = 0 ||
      !geDecimal (2 * b.mantissa) b.exponent (2 * low.digits + 1) low.exponent)

/-- The least `k` with `b < 10 ^ k`, looked for among the magnitudes that 64-bit numbers have. -/
def magnitude (b : Binary) : Int :=
  let candidates := (List.range 640).map fun i : Nat => Int.ofNat i - 330
  (candidates.find? fun k => !geDecimal b.mantissa b.exponent 1 k).getD 310

/-- The decimal for `b` on the multiples of `10 ^ j`, if one of them rounds to `b`. -/
def onGrid? (b : Binary) (j : Int) : Option Value :=
  let low := b.floorAt j
  let high : Value := ⟨low.digits + 1, j⟩
  match b.isReadBack low, b.isReadBack high with
  | true, true => some (if b.prefersBelow low then low else high)
  | true, false => some low
  | false, true => some high
  | false, false => none

/-- The decimal with the fewest digits for `b`; seventeen digits are always enough. -/
def shortest (b : Binary) : Value :=
  let k := b.magnitude
  ((List.range 17).findSome? fun count : Nat => b.onGrid? (k - 1 - Int.ofNat count)).getD
    ⟨0, 0⟩ |>.trimZeros

end Binary

end Registrar.Decimal
