/-!
# Parts of a name

The part before the first of some character, the part after the last character of some kind, the
parts between characters of some kind, and the removal of a fixed text from one end. All of them are
about names made of segments, such as `global::Game.Services.IBar`.
-/

namespace Registrar.Text

/-- The characters before the first one that satisfies `p`; all of them when none does. -/
def beforeFirst (p : Char → Bool) (cs : List Char) : List Char := cs.takeWhile (!p ·)

/-- The characters after the last one that satisfies `p`; all of them when none does. -/
def afterLast (p : Char → Bool) (cs : List Char) : List Char :=
  (cs.reverse.takeWhile (!p ·)).reverse

/-- The parts of a text between the characters that satisfy `p`. -/
def splitWhere (p : Char → Bool) : List Char → List (List Char)
  | [] => [[]]
  | c :: rest =>
    if p c then [] :: splitWhere p rest
    else
      match splitWhere p rest with
      | [] => [[c]]
      | word :: words => (c :: word) :: words

def dropStart? : (start cs : List Char) → Option (List Char)
  | [], cs => some cs
  | _ :: _, [] => none
  | a :: start, c :: cs => if a = c then dropStart? start cs else none

def dropFinish? (finish cs : List Char) : Option (List Char) :=
  (dropStart? finish.reverse cs.reverse).map List.reverse

theorem splitWhere_ne_nil {p : Char → Bool} {cs : List Char} : splitWhere p cs ≠ [] := by
  fun_cases splitWhere p cs <;> simp [*]

/-- The parts hold none of the characters that they stand between. -/
theorem not_of_mem_splitWhere {p : Char → Bool} {cs word : List Char} (hw : word ∈ splitWhere p cs)
    {c : Char} (hc : c ∈ word) : p c = false := by
  induction cs generalizing word with
  | nil => simp_all [splitWhere]
  | cons d rest ih =>
    rw [splitWhere] at hw
    split at hw
    · rcases List.mem_cons.1 hw with rfl | hw
      · simp at hc
      · exact ih hw hc
    next hd =>
      cases hs : splitWhere p rest with
      | nil => exact absurd hs splitWhere_ne_nil
      | cons first words =>
        rw [hs] at hw
        rcases List.mem_cons.1 hw with rfl | hw
        · rcases List.mem_cons.1 hc with rfl | hc
          · simpa using hd
          · exact ih (hs ▸ List.mem_cons_self) hc
        · exact ih (hs ▸ List.mem_cons_of_mem _ hw) hc

/-- A text without separators is one part. -/
theorem splitWhere_of_none {p : Char → Bool} {word : List Char} (h : ∀ c ∈ word, p c = false) :
    splitWhere p word = [word] := by
  induction word with
  | nil => rfl
  | cons c rest ih =>
    obtain ⟨hc, hrest⟩ := List.forall_mem_cons.1 h
    rw [splitWhere, ih hrest, if_neg (by simp [hc])]

/-- A text is cut at each separator, and the parts on both sides are those of the two texts. -/
theorem splitWhere_append_cons {p : Char → Bool} {separator : Char} (h : p separator = true)
    (front back : List Char) :
    splitWhere p (front ++ separator :: back) = splitWhere p front ++ splitWhere p back := by
  induction front with
  | nil => simp [splitWhere, h]
  | cons c front ih =>
    rw [List.cons_append, splitWhere, splitWhere, ih]
    by_cases hc : p c = true
    · rw [if_pos hc, if_pos hc, List.cons_append]
    · rw [if_neg hc, if_neg hc]
      cases hfront : splitWhere p front with
      | nil => exact absurd hfront splitWhere_ne_nil
      | cons word words => rfl

/-- A start is dropped if the text has it, and what is left comes after it. -/
theorem dropStart?_eq_some_iff {start cs rest : List Char} :
    dropStart? start cs = some rest ↔ cs = start ++ rest := by
  induction start generalizing cs with
  | nil => simp [dropStart?, eq_comm]
  | cons a start ih =>
    cases cs with
    | nil => simp [dropStart?]
    | cons c cs =>
      by_cases h : a = c
      · simp [dropStart?, h, ih]
      · simp [dropStart?, h, Ne.symm h]

/-- An ending is dropped if the text has it, and what is left comes before it. -/
theorem dropFinish?_eq_some_iff {finish cs rest : List Char} :
    dropFinish? finish cs = some rest ↔ cs = rest ++ finish := by
  rw [dropFinish?, Option.map_eq_some_iff]
  constructor
  · rintro ⟨r, hr, rfl⟩
    rw [dropStart?_eq_some_iff] at hr
    simpa using congrArg List.reverse hr
  · rintro rfl
    exact ⟨rest.reverse, by simp [dropStart?_eq_some_iff], by simp⟩

/-- No character of the part after the last one of a kind is of that kind. -/
theorem not_of_mem_afterLast {p : Char → Bool} {cs : List Char} {c : Char}
    (h : c ∈ afterLast p cs) : p c = false := by
  have h' : c ∈ cs.reverse.takeWhile (!p ·) := by simpa [afterLast] using h
  have := List.all_takeWhile (p := (!p ·)) (l := cs.reverse)
  simpa using List.all_eq_true.1 this c h'

/-- The part after the last character of a kind is what follows it, or all if there is none. -/
theorem afterLast_eq_iff {p : Char → Bool} {cs word : List Char} :
    afterLast p cs = word ↔ (∀ c ∈ word, p c = false) ∧
      ∃ front : List Char, (∀ c ∈ front.getLast?, p c = true) ∧ cs = front ++ word := by
  constructor
  · rintro rfl
    refine ⟨fun c hc => not_of_mem_afterLast hc, (cs.reverse.dropWhile (!p ·)).reverse, ?_, ?_⟩
    · intro c hc
      rw [List.getLast?_reverse] at hc
      have hhead := List.head?_dropWhile_not (!p ·) cs.reverse
      rw [Option.mem_def.mp hc] at hhead
      simpa using hhead
    · rw [afterLast, ← List.reverse_append, List.takeWhile_append_dropWhile, List.reverse_reverse]
  · rintro ⟨hword, front, hfront, rfl⟩
    -- seen from the back, the run of other characters is the whole word and ends before `front`
    have hrun : ∀ c ∈ word.reverse, (!p c) = true := by
      intro c hc
      simpa using hword c (List.mem_reverse.mp hc)
    have hstop : front.reverse.takeWhile (!p ·) = [] := by
      rw [← List.head?_reverse] at hfront
      cases hback : front.reverse with
      | nil => rfl
      | cons c back =>
        have hc := hfront c (by rw [hback]; rfl)
        simp [hc]
    rw [afterLast, List.reverse_append, List.takeWhile_append_of_pos hrun, hstop, List.append_nil,
      List.reverse_reverse]

end Registrar.Text
