import Registrar.Json.Parsed
import Registrar.Text.Digits

/-!
# Strings in JSON, read

A string whose value is used must make sense: code points beyond U+FFFF are written as pairs of
surrogates, and half a pair is a failure. In a string that is skipped, only the form of the escape
sequences counts.
-/

namespace Registrar.Json

/-- Four hexadecimal digits. The text has ended too early when fewer than four bytes are left. -/
def readFourDigits : Reader Nat
  | a :: b :: c :: d :: rest =>
    match Text.hexValue? a, Text.hexValue? b, Text.hexValue? c, Text.hexValue? d with
    | some a, some b, some c, some d =>
      .ok ⟨((a * 16 + b) * 16 + c) * 16 + d, rest, by simp only [List.length_cons]; omega⟩
    | _, _, _, _ => .error .invalidEscape
  | short =>
    if (String.ofList short).utf8ByteSize < 4 then .error (.endOfText .string)
    else .error .invalidEscape

/-- The first half of a surrogate pair. -/
def isHighSurrogate (n : Nat) : Bool := 0xD800 ≤ n && n ≤ 0xDBFF

/-- The second half of a surrogate pair. -/
def isLowSurrogate (n : Nat) : Bool := 0xDC00 ≤ n && n ≤ 0xDFFF

/-- The code point of a surrogate pair. -/
def pairValue (high low : Nat) : Nat := (high - 0xD800) * 0x400 + (low - 0xDC00) + 0x10000

/-- The second half of a surrogate pair, as an escape sequence of its own. -/
def readLowSurrogate (high : Nat) : Reader Char
  | [] => .error (.endOfText .string)
  | c :: rest =>
    if c = '\\' then
      match rest with
      | [] => .error (.endOfText .string)
      | d :: rest =>
        if d = 'u' then
          (((readFourDigits rest).check fun low =>
            if isLowSurrogate low then .ok (Char.ofNat (pairValue high low))
            else .error .loneSurrogate).afterChar d).afterChar c
        else .error .unfinishedPair
    else .error .unfinishedPair

/-- What a backslash and one character stand for, other than a code point. -/
def shortEscape? (c : Char) : Option Char :=
  match c with
  | '"' => some '"'
  | '\\' => some '\\'
  | '/' => some '/'
  | 'b' => some '\x08'
  | 'f' => some '\x0c'
  | 'n' => some '\n'
  | 'r' => some '\r'
  | 't' => some '\t'
  | _ => none

/-- A code point as an escape sequence, after `\u`. -/
def readCodePoint : Reader Char := fun input =>
  match readFourDigits input with
  | .error e => .error e
  | .ok p =>
    if isLowSurrogate p.value then .error .loneSurrogate
    else if isHighSurrogate p.value then
      (readLowSurrogate p.value p.rest).after p
    else .ok ⟨Char.ofNat p.value, p.rest, p.shorter⟩

/-- An escape sequence after its backslash. -/
def readEscape : Reader Char
  | [] => .error (.endOfText .string)
  | c :: rest =>
    match shortEscape? c with
    | some d => .ok (.ofChar d c rest)
    | none => if c = 'u' then (readCodePoint rest).afterChar c else .error .invalidEscape

/-- An escape sequence after its backslash, whatever it stands for. -/
def skipEscape : Reader Unit
  | [] => .error (.endOfText .string)
  | c :: rest =>
    if (shortEscape? c).isSome then .ok (.ofChar () c rest)
    else if c = 'u' then ((readFourDigits rest).mapValue fun _ => ()).afterChar c
    else .error .invalidEscape

/-- The characters up to the closing quote, after those already read. -/
def readCharacters (reversed : List Char) : (input : List Char) → Answer (List Char) input
  | [] => .error (.endOfText .string)
  | c :: rest =>
    if c = '"' then .ok (.ofChar reversed.reverse c rest)
    else if c = '\\' then
      match readEscape rest with
      | .error e => .error e
      | .ok escape =>
        have := escape.shorter
        ((readCharacters (escape.value :: reversed) escape.rest).after escape).afterChar c
    else if c.toNat < 0x20 then .error .controlCharacter
    else (readCharacters (c :: reversed) rest).afterChar c
termination_by input => input.length
decreasing_by all_goals (simp only [List.length_cons]; omega)

/-- A string after its opening quote. -/
def readStringRest : Reader String := fun input =>
  (readCharacters [] input).mapValue String.ofList

/-- A string after its opening quote, whatever it stands for. -/
def skipStringRest : (input : List Char) → Answer Unit input
  | [] => .error (.endOfText .string)
  | c :: rest =>
    if c = '"' then .ok (.ofChar () c rest)
    else if c = '\\' then
      match skipEscape rest with
      | .error e => .error e
      | .ok escape =>
        have := escape.shorter
        ((skipStringRest escape.rest).after escape).afterChar c
    else if c.toNat < 0x20 then .error .controlCharacter
    else (skipStringRest rest).afterChar c
termination_by input => input.length
decreasing_by all_goals (simp only [List.length_cons]; omega)

end Registrar.Json
