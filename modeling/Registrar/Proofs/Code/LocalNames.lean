import Registrar.Proofs.Code.FreshNames
import Registrar.Proofs.Code.Statements

/-!
# What local names are made of

Whatever a type name is made of, what it comes to is a word of alphanumeric characters and
underscores, and so is a local name for it with a number from 2 on. A counter that has passed its
greatest value gives negative numbers, and their sign is the only other character in local names. So
a local name can be told from what stands around it, and the statements of a service stay on lines of
their own.

* `isWord_mangle`, `isWord_toString` : the parts of local names.
* `isLabel_localName` : what local names are made of.
* `not_mem_statements` : no statement goes over the end of its line.
-/

namespace Registrar.Code

/-! ## §1 — words and labels -/

/-- Alphanumeric characters and underscores only. -/
def IsWord (text : String) : Prop := ∀ c ∈ text.toList, c = '_' ∨ Text.isAlphanumeric c = true

instance (text : String) : Decidable (IsWord text) := List.decidableBAll _ _

/-- Alphanumeric characters, underscores and minus signs only. -/
def IsLabel (text : String) : Prop :=
  ∀ c ∈ text.toList, c = '-' ∨ c = '_' ∨ Text.isAlphanumeric c = true

theorem IsWord.isLabel {text : String} (h : IsWord text) : IsLabel text := fun c hc => Or.inr (h c hc)

theorem IsWord.append {a b : String} (ha : IsWord a) (hb : IsWord b) : IsWord (a ++ b) := by
  intro c hc
  rw [String.toList_append] at hc
  exact (List.mem_append.mp hc).elim (ha c) (hb c)

theorem IsLabel.append {a b : String} (ha : IsLabel a) (hb : IsLabel b) : IsLabel (a ++ b) := by
  intro c hc
  rw [String.toList_append] at hc
  exact (List.mem_append.mp hc).elim (ha c) (hb c)

/-- No other character is in a label. -/
theorem not_mem_of_isLabel {text : String} {c : Char} (h : IsLabel text) (hsign : c ≠ '-')
    (hline : c ≠ '_') (hc : Text.isAlphanumeric c = false) : c ∉ text.toList := by
  intro hmem
  rcases h c hmem with heq | heq | halpha
  · exact hsign heq
  · exact hline heq
  · exact Bool.false_ne_true (hc.symm.trans halpha)

/-- What a type name comes to is a word: the words of the name, or the part for a name without
any. -/
theorem isWord_mangle (name : String) : IsWord (mangle name) := by
  intro c hc
  rw [mangle, String.toList_ofList] at hc
  split at hc
  · have hword : IsWord "service" := by decide
    exact hword c hc
  · next ws _ =>
    rcases mem_intercalate hc with hline | ⟨word, hword, hc⟩
    · exact Or.inl (List.mem_singleton.mp hline)
    · -- a word is what lies between two other characters
      have hall := Text.not_of_mem_splitWhere (List.mem_filter.mp hword).1 hc
      exact Or.inr (by simpa using hall)

/-- The digits of a number are a word. -/
theorem isWord_toString (n : Nat) : IsWord (toString n) := by
  intro c hc
  rw [Nat.toString_eq_ofList_toDigits, String.toList_ofList] at hc
  have hdigit : c.isDigit = true := Nat.isDigit_of_mem_toDigits (by decide) (by decide) hc
  -- digits are ASCII, where the class of alphanumeric characters is known
  have hlt : c.toNat < 0x80 := by
    have hrange : '0'.val ≤ c.val ∧ c.val ≤ '9'.val := by simpa [Char.isDigit] using hdigit
    have hle : c.toNat ≤ 57 := hrange.2
    omega
  rw [Text.isAlphanumeric_of_lt hlt]
  exact Or.inr (by simp [Char.isAlphanum, hdigit])

/-- A number is written with digits, after a sign if it is negative. -/
theorem isLabel_toString (n : Int) : IsLabel (toString n) := by
  cases n with
  | ofNat n => exact (isWord_toString n).isLabel
  | negSucc n =>
    have hsign : IsLabel "-" := by
      intro c hc
      exact Or.inl (List.mem_singleton.mp hc)
    exact hsign.append (isWord_toString (n + 1)).isLabel

/-- Whether it is the base or has a number, what is given for a word is a label. Which names are
taken need not be known. -/
theorem isLabel_fresh {names : Names} {base : String} (h : IsWord base) :
    IsLabel (names.fresh base) := by
  have hline : IsWord "_" := by decide
  -- the base itself, or the base with a number that can be negative
  rcases Names.fresh_cases names base with hbase | ⟨n, hnumbered⟩
  · rw [hbase]
    exact h.isLabel
  · rw [hnumbered]
    exact (h.append hline).isLabel.append (isLabel_toString n)

/-- **A local name is a label**, whichever names are taken. -/
theorem isLabel_localName (names : Names) (d : Descriptor) : IsLabel (localName names d) :=
  isLabel_fresh (IsWord.append (by decide) (isWord_mangle _))

/-! ## §2 — lines -/

end Code

/-- No name of the descriptor goes over the end of a line. -/
structure Descriptor.IsOneLine (d : Descriptor) : Prop where
  implementation : '\n' ∉ d.implementation.text.toList
  interface : '\n' ∉ d.interface.text.toList
  parameters : ∀ p ∈ d.parameters, '\n' ∉ p.text.toList

theorem Descriptor.IsPlain.isOneLine {d : Descriptor} (h : d.IsPlain) : d.IsOneLine :=
  ⟨h.implementation.2, h.interface.2, fun p hp => (h.parameters p hp).2⟩

namespace Code

/-- The arguments of a constructor stay on one line if their types do. -/
theorem not_mem_arguments {ps : List TypeName} (h : ∀ p ∈ ps, '\n' ∉ p.text.toList) :
    '\n' ∉ (arguments ps).toList := by
  intro hmem
  rw [arguments, String.toList_intercalate] at hmem
  -- what stands between two arguments is a comma and a blank
  rcases mem_intercalate hmem with hcomma | ⟨text, htext, hmem⟩
  · exact absurd hcomma (by decide)
  · rw [List.map_map] at htext
    obtain ⟨p, hp, rfl⟩ := List.mem_map.mp htext
    exact absurd hmem (by simp [h p hp])

theorem not_mem_construction {d : Descriptor} (h : d.IsOneLine) :
    '\n' ∉ (construction d).toList := by
  simp [construction_eq, h.implementation, not_mem_arguments h.parameters]

/-- Whatever is registered on one line, the line that registers it is one line. -/
theorem not_mem_registerLine {d : Descriptor} (h : d.IsOneLine) {a : String}
    (ha : '\n' ∉ a.toList) : '\n' ∉ (registerLine d a).toList := by
  have hkeyword : ∀ l : Lifetime, '\n' ∉ (keyword l).toList := by
    intro l
    cases l <;> decide
  simp [registerLine, hkeyword, h.interface, ha]

/-- **No statement goes over the end of its line.** -/
theorem not_mem_statements {d : Descriptor} (h : d.IsOneLine) {name : String} (hname : IsLabel name)
    {line : String} (hline : line ∈ statements name d) : '\n' ∉ line.toList := by
  have hend : '\n' ∉ name.toList :=
    not_mem_of_isLabel hname (by decide) (by decide) (by decide)
  have hconstruction := not_mem_construction h
  unfold statements at hline
  -- a singleton is declared and then registered, anything else is registered only
  split at hline
  · rcases List.mem_pair.mp hline with rfl | rfl
    · simp [declareLine, hend, hconstruction]
    · exact not_mem_registerLine h hend
  · obtain rfl := List.mem_singleton.mp hline
    exact not_mem_registerLine h (by simp [hconstruction])

end Registrar.Code
