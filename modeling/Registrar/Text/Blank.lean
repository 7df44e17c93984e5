/-!
# Blanks at the ends of a text

A blank is a character with the Unicode property White_Space. Names written by people carry stray
blanks at their ends; `Text.trim` takes them off and leaves everything between the first and the
last other character alone.

* `trimChars_eq_self` : a text is left alone when neither end is blank.
* `trimChars_eq_nil_iff` : nothing is left exactly of a text that is blank throughout.
* `trim_trim` : a trimmed text is trimmed.
-/

namespace Registrar.Text

/-- The White_Space characters. Controls U+001C to U+001F and the zero-width U+200B and U+FEFF
have no such property. -/
def isBlank (c : Char) : Bool :=
  let n := c.toNat
  (0x9 ≤ n && n ≤ 0xD) || n == 0x20 || n == 0x85 || n == 0xA0 || n == 0x1680 ||
    (0x2000 ≤ n && n ≤ 0x200A) || n == 0x2028 || n == 0x2029 || n == 0x202F || n == 0x205F ||
    n == 0x3000

def dropFront (cs : List Char) : List Char := cs.dropWhile isBlank

/-- The characters before the blanks at the back. -/
def dropBack (cs : List Char) : List Char := (dropFront cs.reverse).reverse

/-- The characters between the blanks at both ends. -/
def trimChars (cs : List Char) : List Char := dropBack (dropFront cs)

/-- `text` without the blanks at its ends. -/
def trim (text : String) : String := String.ofList (trimChars text.toList)

/-! ## What trimming leaves -/

theorem dropFront_eq_self {cs : List Char} (h : ∀ c ∈ cs.head?, isBlank c = false) :
    dropFront cs = cs := by
  cases cs with
  | nil => rfl
  | cons c rest => simp [dropFront, h c (by simp)]

/-- What is left begins with no blank. -/
theorem head?_dropFront {cs : List Char} : ∀ c ∈ (dropFront cs).head?, isBlank c = false := by
  induction cs with
  | nil => simp [dropFront]
  | cons a rest ih =>
    by_cases ha : isBlank a
    · simpa [dropFront, ha] using ih
    · simp [dropFront, ha]

theorem getLast?_dropBack {cs : List Char} : ∀ c ∈ (dropBack cs).getLast?, isBlank c = false := by
  intro c hc
  rw [dropBack, List.getLast?_reverse] at hc
  exact head?_dropFront c hc

/-- What `dropBack` takes off is at the back. -/
theorem dropBack_isPrefix (cs : List Char) : dropBack cs <+: cs := by
  have h : dropFront cs.reverse <:+ cs.reverse := List.dropWhile_suffix isBlank
  have := List.reverse_prefix.2 h
  simpa [dropBack] using this

theorem dropBack_eq_self {cs : List Char} (h : ∀ c ∈ cs.getLast?, isBlank c = false) :
    dropBack cs = cs := by
  rw [dropBack, dropFront_eq_self, List.reverse_reverse]
  simpa using h

theorem head?_dropBack {cs : List Char} (h : ∀ c ∈ cs.head?, isBlank c = false) :
    ∀ c ∈ (dropBack cs).head?, isBlank c = false := by
  intro c hc
  obtain ⟨rest, hrest⟩ := dropBack_isPrefix cs
  refine h c ?_
  rw [← hrest]
  cases hd : dropBack cs with
  | nil => simp [hd] at hc
  | cons a as => simpa [hd] using hc

/-- A text without blanks at its ends is left as it is. -/
theorem trimChars_eq_self {cs : List Char} (front : ∀ c ∈ cs.head?, isBlank c = false)
    (back : ∀ c ∈ cs.getLast?, isBlank c = false) : trimChars cs = cs := by
  rw [trimChars, dropFront_eq_self front, dropBack_eq_self back]

theorem head?_trimChars {cs : List Char} : ∀ c ∈ (trimChars cs).head?, isBlank c = false :=
  head?_dropBack head?_dropFront

theorem getLast?_trimChars {cs : List Char} : ∀ c ∈ (trimChars cs).getLast?, isBlank c = false :=
  getLast?_dropBack

/-- Trimming a second time changes nothing. -/
theorem trimChars_trimChars (cs : List Char) : trimChars (trimChars cs) = trimChars cs :=
  trimChars_eq_self head?_trimChars getLast?_trimChars

/-- Nothing is left exactly of blanks. -/
theorem dropFront_eq_nil_iff {cs : List Char} :
    dropFront cs = [] ↔ ∀ c ∈ cs, isBlank c = true := by
  induction cs with
  | nil => simp [dropFront]
  | cons a rest ih =>
    rw [List.forall_mem_cons, ← ih]
    by_cases ha : isBlank a
    · simp only [dropFront, List.dropWhile_cons_of_pos ha, ha, true_and]
    · simp only [dropFront, List.dropWhile_cons_of_neg ha, ha, reduceCtorEq, false_and]

/-- Nothing is left exactly of a text that is blank throughout. -/
theorem trimChars_eq_nil_iff {cs : List Char} :
    trimChars cs = [] ↔ ∀ c ∈ cs, isBlank c = true := by
  rw [trimChars, dropBack, List.reverse_eq_nil_iff, dropFront_eq_nil_iff]
  refine ⟨fun h => dropFront_eq_nil_iff.1 ?_, fun h c hc => ?_⟩
  · cases hd : dropFront cs with
    | nil => rfl
    | cons c rest =>
      -- what is left in front is not blank, so nothing can be
      have hblank := h c (by simp [hd])
      have hmem : c ∈ (dropFront cs).head? := by rw [hd]; rfl
      have hhead := head?_dropFront c hmem
      exact absurd hblank (by simp [hhead])
  · rw [dropFront_eq_nil_iff.2 h] at hc
    simp at hc

@[simp] theorem toList_trim (text : String) : (trim text).toList = trimChars text.toList := by
  simp [trim]

theorem trim_trim (text : String) : trim (trim text) = trim text := by
  simp [trim, trimChars_trimChars]

end Registrar.Text
