import Registrar.Proofs.Json.Strings
import Registrar.Proofs.Lists

/-!
# Numbers by the grammar

A number ends where no digit, point or exponent can follow it. The reader takes every literal that
ends there apart into its signs and digits, so no input spells two numbers; and the decimal digits
of a natural number spell that number.

* `Stops` : a number that ends here cannot go on.
* `view_readLiteral` : the reader follows the grammar.
* `SpellsNumber.unique` : an input spells one number, if it stops.
* `spells_toString` : a natural number, written out, spells itself.
-/

namespace Registrar.Json

/-! ## §1 — where a number ends -/

/-- A number that ends here cannot go on. -/
def Stops (input : List Char) : Prop :=
  ∀ c ∈ input.head?, c.isDigit = false ∧ c ≠ '.' ∧ c ≠ 'e' ∧ c ≠ 'E'

/-- A run of digits that ends here cannot go on. -/
def NoDigit (input : List Char) : Prop := ∀ c ∈ input.head?, c.isDigit = false

theorem Stops.noDigit {input : List Char} (h : Stops input) : NoDigit input :=
  fun c hc => (h c hc).1

/-- A run of digits stops at any other character. -/
theorem noDigit_cons {c : Char} {rest : List Char} (h : c.isDigit = false) :
    NoDigit (c :: rest) := by
  intro d hd
  obtain rfl := Option.some.inj hd
  exact h

theorem Literal.fractionText_eq_nil (l : Literal) (h : l.fraction = []) : l.fractionText = [] := by
  rw [fractionText, h]

/-- A fraction is written after its point. -/
theorem Literal.fractionText_eq_cons (l : Literal) (h : l.fraction ≠ []) :
    l.fractionText = '.' :: l.fraction := by
  unfold fractionText
  split
  · next hnil => exact absurd hnil h
  · rfl

/-- No digit starts an exponent, and none starts what comes after a number without one. -/
theorem noDigit_exponent {e : Option (Bool × List Char)} {exponent rest : List Char}
    (h : Literal.SpellsExponent e exponent) (hrest : Stops rest) : NoDigit (exponent ++ rest) := by
  have hmark : ∀ {e : Char} {tail : List Char}, e = 'e' ∨ e = 'E' → NoDigit (e :: tail) := by
    intro e tail he
    rcases he with rfl | rfl
    · exact noDigit_cons (by decide)
    · exact noDigit_cons (by decide)
  cases h with
  | none => exact hrest.noDigit
  | unsigned he => exact hmark he
  | plus he => exact hmark he
  | minus he => exact hmark he

/-- A fraction starts with a point, so the digits before it stop there. -/
theorem noDigit_fraction (l : Literal) {tail : List Char} (h : NoDigit tail) :
    NoDigit (l.fractionText ++ tail) := by
  by_cases hnone : l.fraction = []
  · rw [l.fractionText_eq_nil hnone]
    exact h
  · rw [l.fractionText_eq_cons hnone]
    exact noDigit_cons (by decide)

/-! ## §2 — reading -/

variable (atEnd : Failure)

/-- The digits before the point are read, if no digit follows them. -/
theorem readWhole_append {whole tail : List Char} (hne : whole ≠ [])
    (hdigits : ∀ c ∈ whole, c.isDigit = true) (hzero : whole.head? = some '0' → whole = ['0'])
    (htail : NoDigit tail) :
    ∃ hlt, readWhole atEnd (whole ++ tail) = .ok ⟨whole, tail, hlt⟩ := by
  refine Answer.eq_ok_of_view ?_
  cases whole with
  | nil => exact absurd rfl hne
  | cons c digits =>
    have hc := hdigits c List.mem_cons_self
    have hrun : ∀ d ∈ digits, d.isDigit = true := fun d hd => hdigits d (List.mem_cons_of_mem _ hd)
    by_cases hc0 : c = '0'
    · -- a zero stands alone
      subst hc0
      obtain rfl : digits = [] := (List.cons.inj (hzero rfl)).2
      have hhead : tail.head?.any Char.isDigit = false := by
        cases hh : tail.head? with
        | none => rfl
        | some d => exact htail d hh
      rw [List.singleton_append, readWhole, if_pos rfl, hhead]
      rfl
    · rw [List.cons_append, readWhole, if_neg hc0, if_pos hc]
      show Except.ok (c :: (digits ++ tail).takeWhile Char.isDigit,
        (digits ++ tail).dropWhile Char.isDigit) = _
      rw [takeWhile_append_stop hrun htail, dropWhile_append_stop hrun htail]

/-- A run of digits is read to its end. -/
theorem view_readDigits {digits tail : List Char} (hne : digits ≠ [])
    (hdigits : ∀ c ∈ digits, c.isDigit = true) (htail : NoDigit tail) :
    (readDigits atEnd (digits ++ tail)).view = .ok (digits, tail) := by
  obtain ⟨c, more, rfl⟩ := List.exists_cons_of_ne_nil hne
  have hrun : ∀ d ∈ more, d.isDigit = true := fun d hd => hdigits d (List.mem_cons_of_mem _ hd)
  rw [List.cons_append, readDigits, if_pos (hdigits c List.mem_cons_self)]
  show Except.ok (c :: (more ++ tail).takeWhile Char.isDigit,
    (more ++ tail).dropWhile Char.isDigit) = _
  rw [takeWhile_append_stop hrun htail, dropWhile_append_stop hrun htail]

/-- A fraction is read, or none if there is no point. -/
theorem readFraction_append {l : Literal} (hl : l.IsProper) {tail : List Char}
    (htail : NoDigit tail) (hpoint : ∀ c ∈ tail.head?, c ≠ '.') :
    ∃ hle, readFraction atEnd (l.fractionText ++ tail) = .ok ⟨l.fraction, tail, hle⟩ := by
  refine Taken.eq_ok_of_view ?_
  by_cases hnone : l.fraction = []
  · rw [l.fractionText_eq_nil hnone, List.nil_append, hnone]
    unfold readFraction
    split
    · exact absurd rfl (hpoint '.' rfl)
    · rfl
  -- after a point the digits of the fraction are read up to the exponent
  · obtain ⟨_, hread⟩ :=
      Answer.eq_ok_of_view (view_readDigits atEnd hnone hl.fraction_digits htail)
    rw [l.fractionText_eq_cons hnone, List.cons_append, readFraction, hread]
    rfl

/-- A run of digits has no sign. -/
theorem takeSign_digits {digits tail : List Char} (hne : digits ≠ [])
    (hdigits : ∀ c ∈ digits, c.isDigit = true) :
    takeSign (digits ++ tail) = .nothing false (digits ++ tail) := by
  obtain ⟨d, more, rfl⟩ := List.exists_cons_of_ne_nil hne
  have hd : ∀ {sign : Char} {rest : List Char}, sign.isDigit = false →
      d :: (more ++ tail) ≠ sign :: rest := by
    intro sign rest hsign heq
    have hdigit := hdigits d List.mem_cons_self
    rw [(List.cons.inj heq).1, hsign] at hdigit
    exact Bool.false_ne_true hdigit
  rw [List.cons_append, takeSign]
  · exact fun rest => hd (by decide)
  · exact fun rest => hd (by decide)

/-- An exponent is read as its sign says, when its digits are read. -/
theorem view_readExponent_cons {m : Char} (hm : m = 'e' ∨ m = 'E') {tail digits rest : List Char}
    {isNegative : Bool} (hvalue : (takeSign tail).value = isNegative)
    (htail : (takeSign tail).rest = digits ++ rest)
    (hread : (readDigits atEnd (digits ++ rest)).view = .ok (digits, rest)) :
    Taken.view (readExponent atEnd (m :: tail)) = .ok (some (isNegative, digits), rest) := by
  have hmark : (m = 'e' || m = 'E') = true := by simpa using hm
  rw [← htail] at hread
  obtain ⟨_, hread⟩ := Answer.eq_ok_of_view hread
  rw [readExponent, if_pos hmark, ← hvalue]
  simp only [hread]
  rfl

/-- An exponent is read with its sign, or none if the number stops. -/
theorem readExponent_append {e : Option (Bool × List Char)} {exponent rest : List Char}
    (h : Literal.SpellsExponent e exponent)
    (hdigits : ∀ p ∈ e, p.2 ≠ [] ∧ ∀ c ∈ p.2, c.isDigit = true) (hrest : Stops rest) :
    ∃ hle, readExponent atEnd (exponent ++ rest) = .ok ⟨e, rest, hle⟩ := by
  have hread : ∀ p ∈ e, (readDigits atEnd (p.2 ++ rest)).view = .ok (p.2, rest) := by
    intro p hp
    obtain ⟨hne, hall⟩ := hdigits p hp
    exact view_readDigits atEnd hne hall hrest.noDigit
  refine Taken.eq_ok_of_view ?_
  cases h with
  | none =>
    rw [List.nil_append]
    cases rest with
    | nil => rfl
    | cons c rest =>
      obtain ⟨-, -, hlower, hupper⟩ := hrest c rfl
      rw [readExponent, if_neg (by simp [hlower, hupper])]
      rfl
  | @unsigned m digits hm =>
    obtain ⟨hne, hall⟩ : digits ≠ [] ∧ ∀ c ∈ digits, c.isDigit = true := hdigits _ rfl
    have hsign : takeSign (digits ++ rest) = .nothing false (digits ++ rest) :=
      takeSign_digits hne hall
    exact view_readExponent_cons atEnd hm (congrArg Taken.value hsign) (congrArg Taken.rest hsign)
      (hread _ rfl)
  | plus hm => exact view_readExponent_cons atEnd hm rfl rfl (hread _ rfl)
  | minus hm => exact view_readExponent_cons atEnd hm rfl rfl (hread _ rfl)

/-- An exponent does not start with a point, and neither does what comes after a number. -/
theorem not_point_exponent {e : Option (Bool × List Char)} {exponent rest : List Char}
    (h : Literal.SpellsExponent e exponent) (hrest : Stops rest) :
    ∀ c ∈ (exponent ++ rest).head?, c ≠ '.' := by
  intro c hc
  cases h with
  | none => exact (hrest c hc).2.1
  | unsigned hm | plus hm | minus hm =>
    obtain rfl := Option.some.inj hc
    rcases hm with rfl | rfl <;> decide

/-- A literal is read part by part, each part stopping where the next one starts. -/
theorem view_readUnsigned {l : Literal} (hl : l.IsProper) {exponent rest : List Char}
    (he : Literal.SpellsExponent l.exponent exponent) (hrest : Stops rest) :
    (readUnsigned atEnd l.isNegative
      (l.whole ++ (l.fractionText ++ (exponent ++ rest)))).view = .ok (l, rest) := by
  have htail := noDigit_exponent he hrest
  obtain ⟨_, hwhole⟩ := readWhole_append atEnd hl.whole_ne_nil hl.whole_digits
    hl.whole_zero (noDigit_fraction l htail)
  obtain ⟨_, hfraction⟩ :=
    readFraction_append atEnd hl htail (not_point_exponent he hrest)
  obtain ⟨_, hexponent⟩ := readExponent_append atEnd he hl.exponent_digits hrest
  simp only [readUnsigned, bind, Except.bind, hwhole, hfraction, hexponent]
  rfl

/-- **The reader follows the grammar of numbers**, where they stop. -/
theorem view_readLiteral {l : Literal} (hl : l.IsProper) {exponent rest : List Char}
    (he : Literal.SpellsExponent l.exponent exponent) (hrest : Stops rest) :
    (readLiteral atEnd (l.signText ++ l.whole ++ l.fractionText ++ exponent ++ rest)).view =
      .ok (l, rest) := by
  have hread := view_readUnsigned atEnd hl he hrest
  -- the literal is bracketed from the left as written, and from the right as it is read
  have htext : l.signText ++ l.whole ++ l.fractionText ++ exponent ++ rest =
      l.signText ++ (l.whole ++ (l.fractionText ++ (exponent ++ rest))) := by
    simp only [List.append_assoc]
  rw [htext]
  unfold Literal.signText
  cases hsign : l.isNegative with
  | true =>
    rw [hsign] at hread
    rw [if_pos rfl, List.singleton_append, readLiteral, Answer.view_afterChar]
    exact hread
  | false =>
    rw [hsign] at hread
    rw [if_neg Bool.false_ne_true, List.nil_append, readLiteral]
    · exact hread
    · -- the first digit is no sign
      intro tail heq
      obtain ⟨c, digits, hwhole⟩ := List.exists_cons_of_ne_nil hl.whole_ne_nil
      have hc : c.isDigit = true := hl.whole_digits c (by simp [hwhole])
      rw [hwhole, List.cons_append] at heq
      obtain rfl := (List.cons.inj heq).1
      exact absurd hc (by decide)

/-- An input spells one number, because the reader gives one literal. -/
theorem SpellsNumber.unique {q r : ℚ} {input rest rest' : List Char}
    (h : SpellsNumber q input rest) (hrest : Stops rest) (h' : SpellsNumber r input rest')
    (hrest' : Stops rest') : q = r ∧ rest = rest' := by
  obtain ⟨hl, he⟩ := h
  generalize hinput : _ ++ rest = input at h'
  obtain ⟨hl', he'⟩ := h'
  -- both literals are read off the same input, so they are the same literal
  have hread := view_readLiteral .expectedValue hl he hrest
  rw [hinput, view_readLiteral .expectedValue hl' he' hrest'] at hread
  obtain ⟨rfl, rfl⟩ := Prod.mk.inj (Except.ok.inj hread)
  exact ⟨rfl, rfl⟩

/-- A number starts with a digit or a minus sign. -/
theorem SpellsNumber.head {q : ℚ} {c : Char} {input rest : List Char}
    (h : SpellsNumber q (c :: input) rest) : c = '-' ∨ c.isDigit = true := by
  generalize hinput : c :: input = whole at h
  obtain ⟨hl, he⟩ := h
  next l exponent =>
    obtain ⟨d, digits, hwhole⟩ := List.exists_cons_of_ne_nil hl.whole_ne_nil
    rw [hwhole] at hinput
    unfold Literal.signText at hinput
    split at hinput
    · exact Or.inl (List.cons.inj hinput).1
    · obtain rfl : c = d := (List.cons.inj hinput).1
      exact Or.inr (hl.whole_digits c (by simp [hwhole]))

/-! ## §3 — writing -/

/-- The value of the decimal digits of a number is the number. -/
theorem digitsValue_toDigits (n : Nat) : Text.digitsValue (Nat.toDigits 10 n) = n := by
  have hfold : Text.digitsValue (Nat.toDigits 10 n) =
      Nat.ofDigitChars 10 (Nat.toDigits 10 n) 0 := by
    rw [Nat.ofDigitChars_eq_foldl, Text.digitsValue]
    congr 1
    funext value c
    rw [Nat.mul_comm]
    rfl
  rw [hfold, Nat.ofDigitChars_ten_toDigits]

/-- Only zero is written with a zero in front. Induction on the digits from the back. -/
theorem toDigits_of_head_zero (n : Nat) (h : (Nat.toDigits 10 n).head? = some '0') :
    Nat.toDigits 10 n = ['0'] := by
  induction n using Nat.strongRecOn with
  | ind n ih =>
    by_cases hsmall : n < 10
    · rw [Nat.toDigits_of_lt_base hsmall] at h ⊢
      exact congrArg (fun c => [c]) (Option.some.inj h)
    · rw [Nat.toDigits_of_base_le (by decide) (by omega), List.head?_append_of_ne_nil _
        Nat.toDigits_ne_nil] at h
      -- the first digit is that of the number without its last one, which would have to be zero
      have hfront := ih (n / 10) (by omega) h
      have hzero : n / 10 = 0 := by
        rw [← digitsValue_toDigits (n / 10), hfront]
        rfl
      omega

/-- The literal of a natural number. -/
def Literal.ofNat (n : Nat) : Literal := ⟨false, Nat.toDigits 10 n, [], none⟩

theorem Literal.isProper_ofNat (n : Nat) : (Literal.ofNat n).IsProper where
  whole_ne_nil := Nat.toDigits_ne_nil
  whole_digits := fun _ hc => Nat.isDigit_of_mem_toDigits (by decide) (by decide) hc
  whole_zero := toDigits_of_head_zero n
  fraction_digits := fun _ hc => absurd hc List.not_mem_nil
  exponent_digits := fun _ he => nomatch he

theorem Literal.rational_ofNat (n : Nat) : (Literal.ofNat n).rational = n := by
  have hvalue : (Literal.ofNat n).exponentValue - ((Literal.ofNat n).fraction.length : Int) = 0 :=
    rfl
  rw [Literal.rational, hvalue, zpow_zero, mul_one]
  simp [Literal.ofNat, digitsValue_toDigits]

/-- **A natural number, written out, spells itself.** -/
theorem spells_toString (n : Nat) (rest : List Char) :
    Spells (.number n) ((toString n).toList ++ rest) rest := by
  have h : SpellsNumber _ _ rest := .mk (Literal.isProper_ofNat n) .none
  rw [Literal.rational_ofNat] at h
  have htext : (toString n).toList = Nat.toDigits 10 n := by
    rw [Nat.toString_eq_ofList_toDigits, String.toList_ofList]
  rw [htext]
  refine .number ?_
  simpa [Literal.ofNat, Literal.signText, Literal.fractionText] using h

end Registrar.Json
