/-!
# Showing bytes as text

Bytes that are no UTF-8 are shown as the characters they hold, with U+FFFD for whatever is broken: a
byte that starts no character, and the start of a character that is not finished.
-/

namespace Registrar.Text

/-- Stands for bytes that make no character. -/
def replacement : Char := '\uFFFD'

/-- What is awaited within a character of several bytes. -/
structure Pending where
  /-- The bits of the code point so far. -/
  bits : Nat
  /-- The least and the greatest next byte. -/
  low : UInt8
  high : UInt8
  /-- How many bytes follow the next one. -/
  more : Nat
deriving DecidableEq, Repr

/-- What is awaited after a byte that starts a character of several bytes. The second byte is bounded
so that no code point is written longer than need be, and neither surrogates nor anything beyond
U+10FFFF are written at all. -/
def afterLead? (b : UInt8) : Option Pending :=
  let n := b.toNat
  if n < 0xC2 then none
  else if n ≤ 0xDF then some ⟨n - 0xC0, 0x80, 0xBF, 0⟩
  else if n = 0xE0 then some ⟨n - 0xE0, 0xA0, 0xBF, 1⟩
  else if n = 0xED then some ⟨n - 0xE0, 0x80, 0x9F, 1⟩
  else if n ≤ 0xEF then some ⟨n - 0xE0, 0x80, 0xBF, 1⟩
  else if n = 0xF0 then some ⟨n - 0xF0, 0x90, 0xBF, 2⟩
  else if n ≤ 0xF3 then some ⟨n - 0xF0, 0x80, 0xBF, 2⟩
  else if n = 0xF4 then some ⟨n - 0xF0, 0x80, 0x8F, 2⟩
  else none

/-- What a byte between two characters shows, and what is awaited after it. -/
def showFirst (b : UInt8) : List Char × Option Pending :=
  if b < 0x80 then ([Char.ofNat b.toNat], none)
  else
    match afterLead? b with
    | some pending => ([], some pending)
    | none => ([replacement], none)

/-- What a byte within a character shows, and what is awaited after it. -/
def showNext (p : Pending) (b : UInt8) : List Char × Option Pending :=
  if p.low ≤ b ∧ b ≤ p.high then
    let bits := p.bits * 64 + (b.toNat - 0x80)
    match p.more with
    | 0 => ([Char.ofNat bits], none)
    | more + 1 => ([], some ⟨bits, 0x80, 0xBF, more⟩)
  else
    let (shown, pending) := showFirst b
    (replacement :: shown, pending)

def showBytes : Option Pending → List UInt8 → List Char
  | none, [] => []
  | some _, [] => [replacement]
  | none, b :: rest => (showFirst b).1 ++ showBytes (showFirst b).2 rest
  | some p, b :: rest => (showNext p b).1 ++ showBytes (showNext p b).2 rest

def shown (bytes : ByteArray) : String := String.ofList (showBytes none bytes.toList)

end Registrar.Text
