import Registrar.Json.Escape
import Registrar.Json.StringReader
import Registrar.Proofs.Json.Grammar

/-!
# Strings by the grammar

Strings can be written in many ways and are read in one. The reader takes every spelling of a string
back to its characters, so no input spells two strings; and the spelling that reports use is one of
those that the grammar knows.

* `view_readStringRest` : the reader follows the grammar.
* `SpellsChars.unique` : an input spells one string, and ends it at one place.
* `spells_quote` : a quoted text spells the text.
-/

namespace Registrar.Json

/-! ## §1 — answers by what they show -/

section

variable {α β : Type} {input : List Char}

/-- An answer is given by what it shows: the proof that it carries follows. -/
theorem Answer.eq_ok_of_view {answer : Answer α input} {a : α} {rest : List Char}
    (h : answer.view = .ok (a, rest)) : ∃ hlt, answer = .ok ⟨a, rest, hlt⟩ := by
  cases answer with
  | error e => exact absurd h (by simp [view, Except.map])
  | ok p =>
    obtain ⟨rfl, rfl⟩ := Prod.mk.inj (Except.ok.inj h)
    exact ⟨p.shorter, rfl⟩

/-- The value that may be there and the rest, without the proof. -/
def Taken.view (answer : Except Failure (Taken α input)) : Except Failure (α × List Char) :=
  Except.map (fun t => (t.value, t.rest)) answer

/-- The same for an answer that may have taken nothing. -/
theorem Taken.eq_ok_of_view {answer : Except Failure (Taken α input)} {a : α} {rest : List Char}
    (h : Taken.view answer = .ok (a, rest)) : ∃ hle, answer = .ok ⟨a, rest, hle⟩ := by
  cases answer with
  | error e => exact absurd h (by simp [view, Except.map])
  | ok t =>
    obtain ⟨rfl, rfl⟩ := Prod.mk.inj (Except.ok.inj h)
    exact ⟨t.noLonger, rfl⟩

/-- A check that passes changes the value, and leaves the rest. -/
theorem Answer.view_check {answer : Answer α input} {a : α} {b : β} {rest : List Char}
    {f : α → Except Failure β} (h : answer.view = .ok (a, rest)) (hf : f a = .ok b) :
    (answer.check f).view = .ok (b, rest) := by
  obtain ⟨hlt, rfl⟩ := eq_ok_of_view h
  simp [check, view, hf, Except.map]

end

/-! ## §2 — reading -/

theorem view_readFourDigits {digits : List Char} {n : Nat} (h : FourDigits digits n)
    (rest : List Char) : (readFourDigits (digits ++ rest)).view = .ok (n, rest) := by
  cases h with
  | mk ha hb hc hd =>
    simp only [List.cons_append, List.nil_append, readFourDigits, ha, hb, hc, hd]
    rfl

theorem shortEscape?_of_mem {letter c : Char} (h : (letter, c) ∈ letterEscapes) :
    shortEscape? letter = some c := by
  have hall : ∀ p ∈ letterEscapes, shortEscape? p.1 = some p.2 := by decide
  exact hall _ h

/-- The code point of a character is no half of a surrogate pair. -/
theorem not_surrogate (c : Char) :
    isHighSurrogate c.toNat = false ∧ isLowSurrogate c.toNat = false := by
  have hvalid : c.toNat < 0xD800 ∨ 0xDFFF < c.toNat ∧ c.toNat < 0x110000 := c.valid
  refine ⟨?_, ?_⟩
  · simp only [isHighSurrogate, Bool.and_eq_false_iff, decide_eq_false_iff_not]
    omega
  · simp only [isLowSurrogate, Bool.and_eq_false_iff, decide_eq_false_iff_not]
    omega

/-- An escaped code point is read as its character. -/
theorem view_readCodePoint {c : Char} {digits : List Char} (h : FourDigits digits c.toNat)
    (rest : List Char) : (readCodePoint (digits ++ rest)).view = .ok (c, rest) := by
  obtain ⟨hlt, hread⟩ := Answer.eq_ok_of_view (view_readFourDigits h rest)
  obtain ⟨hhigh, hlow⟩ := not_surrogate c
  simp only [readCodePoint, hread, hhigh, hlow]
  rw [if_neg Bool.false_ne_true, if_neg Bool.false_ne_true, Char.ofNat_toNat]
  rfl

/-- A pair of surrogates is read as the character that it stands for. -/
theorem view_readCodePoint_pair {c : Char} {first second : List Char} {high low : Nat}
    (hfirst : FourDigits first high) (hsecond : FourDigits second low)
    (hhigh : 0xD800 ≤ high ∧ high < 0xDC00) (hlow : 0xDC00 ≤ low ∧ low < 0xE000)
    (hc : c.toNat = 0x10000 + (high - 0xD800) * 0x400 + (low - 0xDC00)) (rest : List Char) :
    (readCodePoint (first ++ '\\' :: 'u' :: second ++ rest)).view = .ok (c, rest) := by
  have hisHigh : isHighSurrogate high = true := by
    simp only [isHighSurrogate, Bool.and_eq_true, decide_eq_true_eq]
    omega
  have hnotLow : isLowSurrogate high = false := by
    simp only [isLowSurrogate, Bool.and_eq_false_iff, decide_eq_false_iff_not]
    omega
  have hisLow : isLowSurrogate low = true := by
    simp only [isLowSurrogate, Bool.and_eq_true, decide_eq_true_eq]
    omega
  -- the two halves make up the code point again, added in the other order
  have hvalue : Char.ofNat (pairValue high low) = c := by
    rw [pairValue, Nat.add_comm, ← Nat.add_assoc, ← hc, Char.ofNat_toNat]
  have hlowRead :
      (readLowSurrogate high ('\\' :: 'u' :: (second ++ rest))).view = .ok (c, rest) := by
    simp only [readLowSurrogate, if_true, Answer.view_afterChar]
    refine Answer.view_check (view_readFourDigits hsecond rest) ?_
    rw [if_pos hisLow, hvalue]
  rw [List.append_assoc]
  obtain ⟨hlt, hread⟩ :=
    Answer.eq_ok_of_view (view_readFourDigits hfirst ('\\' :: 'u' :: second ++ rest))
  simp only [readCodePoint, hread, hisHigh, hnotLow]
  rw [if_neg Bool.false_ne_true, if_pos trivial, Answer.view_after]
  exact hlowRead

/-- Reading one spelled character goes on with the characters after it. -/
theorem view_readCharacters_char {c : Char} {written : List Char} (h : SpellsChar c written)
    (reversed rest : List Char) :
    (readCharacters reversed (written ++ rest)).view =
      (readCharacters (c :: reversed) rest).view := by
  -- an escape sequence is read by `readEscape`, whatever its kind
  have hescape : ∀ tail, (readEscape (tail ++ rest)).view = .ok (c, rest) →
      (readCharacters reversed ('\\' :: tail ++ rest)).view =
        (readCharacters (c :: reversed) rest).view := by
    intro tail htail
    obtain ⟨hlt, hread⟩ := Answer.eq_ok_of_view htail
    rw [List.cons_append, readCharacters, if_neg (by decide), if_pos rfl, hread]
    simp only [Answer.view_afterChar, Answer.view_after]
  cases h with
  | plain hquote hbackslash hcontrol =>
    rw [List.singleton_append, readCharacters, if_neg hquote, if_neg hbackslash,
      if_neg (Nat.not_lt.mpr hcontrol), Answer.view_afterChar]
  | letter hletter =>
    refine hescape [_] ?_
    simp only [List.singleton_append, readEscape, shortEscape?_of_mem hletter]
    rfl
  | @codePoint digits hdigits =>
    refine hescape ('u' :: digits) ?_
    rw [List.cons_append, readEscape, show shortEscape? 'u' = none from rfl]
    rw [if_pos rfl, Answer.view_afterChar]
    exact view_readCodePoint hdigits rest
  | @pair first second high low hfirst hsecond hhigh hlow hc =>
    refine hescape ('u' :: first ++ '\\' :: 'u' :: second) ?_
    rw [List.cons_append, List.cons_append, readEscape, show shortEscape? 'u' = none from rfl]
    rw [if_pos rfl, Answer.view_afterChar]
    exact view_readCodePoint_pair hfirst hsecond hhigh hlow hc rest

/-- Induction on the spelling: each character goes on top of those already read. -/
theorem view_readCharacters {cs input rest : List Char} (h : SpellsChars cs input rest)
    (reversed : List Char) :
    (readCharacters reversed input).view = .ok (reversed.reverse ++ cs, rest) := by
  induction h generalizing reversed with
  | close =>
    rw [readCharacters, if_pos rfl, List.append_nil]
    rfl
  | char hc _ ih =>
    rw [view_readCharacters_char hc, ih, List.reverse_cons, List.append_assoc,
      List.singleton_append]

/-- **The reader follows the grammar of strings.** -/
theorem view_readStringRest {text : String} {input rest : List Char}
    (h : SpellsChars text.toList input rest) :
    (readStringRest input).view = .ok (text, rest) := by
  rw [readStringRest, Answer.view_mapValue, view_readCharacters h, List.reverse_nil,
    List.nil_append]
  simp [Except.map]

/-- An input spells one string only, because the reader gives one answer only. -/
theorem SpellsChars.unique {cs ds input rest rest' : List Char} (h : SpellsChars cs input rest)
    (h' : SpellsChars ds input rest') : cs = ds ∧ rest = rest' := by
  -- both lists are what the reader makes of the same input
  have heq := (view_readCharacters h []).symm.trans (view_readCharacters h' [])
  exact Prod.mk.inj (Except.ok.inj heq)

/-! ## §3 — writing -/

theorem hexValue?_digitChar {n : Nat} (h : n < 16) : Text.hexValue? n.digitChar = some n := by
  have hall : ∀ n < 16, Text.hexValue? n.digitChar = some n := by decide
  exact hall n h

/-- The control characters are below U+00A0, so two of the four digits are zeros. -/
theorem fourDigits_eq {n : Nat} (h : n < 0xA0) :
    fourDigits n = ['0', '0', (n / 16).digitChar, (n % 16).digitChar] := by
  rw [fourDigits]
  -- one digit has to be filled up with a third zero
  by_cases hsmall : n < 16
  · rw [Nat.toDigits_of_lt_base hsmall, Nat.div_eq_of_lt hsmall, Nat.mod_eq_of_lt hsmall]
    rfl
  · have hhigh : n / 16 < 16 := by omega
    rw [Nat.toDigits_of_base_le (by decide) (Nat.le_of_not_lt hsmall),
      Nat.toDigits_of_lt_base hhigh]
    rfl

/-- The four digits of a control character have its code point as their value. -/
theorem fourDigits_fourDigits {n : Nat} (h : n < 0xA0) : FourDigits (fourDigits n) n := by
  have hzero : Text.hexValue? '0' = some 0 := by decide
  have hhigh : Text.hexValue? (n / 16).digitChar = some (n / 16) := hexValue?_digitChar (by omega)
  have hlow : Text.hexValue? (n % 16).digitChar = some (n % 16) := hexValue?_digitChar (by omega)
  have hvalue : ((0 * 16 + 0) * 16 + n / 16) * 16 + n % 16 = n := by omega
  rw [fourDigits_eq h]
  have hdigits := FourDigits.mk hzero hzero hhigh hlow
  rwa [hvalue] at hdigits

/-- The way reports write a character is one of the ways to write it. -/
theorem spellsChar_escapeChar (c : Char) : SpellsChar c (escapeChar c) := by
  unfold escapeChar
  split
  · exact .letter (by decide)
  · exact .letter (by decide)
  · exact .letter (by decide)
  · exact .letter (by decide)
  · exact .letter (by decide)
  · next hquote hbackslash _ _ _ =>
    by_cases hcontrol : isControl c = true
    · rw [if_pos hcontrol]
      refine .codePoint (fourDigits_fourDigits ?_)
      simp only [isControl, Bool.or_eq_true, Bool.and_eq_true, decide_eq_true_eq] at hcontrol
      omega
    · rw [if_neg hcontrol]
      refine .plain hquote hbackslash ?_
      simp only [isControl, Bool.or_eq_true, Bool.and_eq_true, decide_eq_true_eq] at hcontrol
      omega

/-- An escaped text spells its characters, up to the quote after it. -/
theorem spellsChars_escape (cs rest : List Char) :
    SpellsChars cs (cs.flatMap escapeChar ++ '"' :: rest) rest := by
  induction cs with
  | nil => exact .close
  | cons c cs ih =>
    rw [List.flatMap_cons, List.append_assoc]
    exact .char (spellsChar_escapeChar c) ih

/-- **A quoted text spells the text**, character for character. -/
theorem spells_quote (text : String) (rest : List Char) :
    Spells (.string text) ((quote text).toList ++ rest) rest := by
  have hquote : (quote text).toList ++ rest =
      '"' :: (text.toList.flatMap escapeChar ++ '"' :: rest) := by
    simp [quote, escape]
  rw [hquote]
  exact .string (spellsChars_escape text.toList rest)

end Registrar.Json
