import Registrar.Proofs.Json.Numbers

/-!
# One text, one value

An input spells at most one value. Every rule of the grammar starts in its own way after white
space, so two derivations for one input go by the same rules; only a number could be ended at
several places, and the token that has to come after it fixes the place.

* `Token.char_unique`, `Token.rest_unique` : an input starts with one token.
* `Spells.unique` : an input spells one value, if it stops after it.
* `Value.IsText.unique` : a text stands for one value.
-/

namespace Registrar.Json

/-! ## §1 — tokens -/

theorem stops_blank {c : Char} {rest : List Char} (h : isJsonBlank c = true) :
    Stops (c :: rest) := by
  intro d hd
  obtain rfl := Option.some.inj hd
  have hcases : ((c = ' ' ∨ c = '\t') ∨ c = '\n') ∨ c = '\r' := by simpa [isJsonBlank] using h
  rcases hcases with ((rfl | rfl) | rfl) | rfl <;> decide

/-- After a number comes a comma, a closing bracket or a closing brace. -/
theorem Token.stops {c : Char} {input rest : List Char} (h : Token c input rest)
    (hc : c ∈ [',', ']', '\x7d']) : Stops input := by
  cases h with
  | blank hb => exact stops_blank hb
  | here =>
    intro d hd
    obtain rfl := Option.some.inj hd
    simp only [List.mem_cons, List.not_mem_nil, or_false] at hc
    rcases hc with rfl | rfl | rfl <;> decide

theorem stops_of_blanks {rest : List Char} (h : ∀ c ∈ rest, isJsonBlank c = true) : Stops rest := by
  cases rest with
  | nil => exact fun c hc => nomatch hc
  | cons c rest => exact stops_blank (h c List.mem_cons_self)

variable {c d : Char} {input rest rest' : List Char}

/-- An input starts with one token. -/
theorem Token.char_unique (hc : isJsonBlank c = false) (hd : isJsonBlank d = false)
    (h : Token c input rest) (h' : Token d input rest') : c = d := by
  -- a blank on one side only would be the token of the other side
  induction h with
  | here =>
    cases h' with
    | here => rfl
    | blank hb => exact absurd (hc.symm.trans hb) Bool.false_ne_true
  | blank hb _ ih =>
    cases h' with
    | here => exact absurd (hd.symm.trans hb) Bool.false_ne_true
    | blank _ h' => exact ih h'

/-- A token is at one place, namely after all the white space. -/
theorem Token.rest_unique (hc : isJsonBlank c = false) (h : Token c input rest)
    (h' : Token c input rest') : rest = rest' := by
  induction h with
  | here =>
    cases h' with
    | here => rfl
    | blank hb => exact absurd (hc.symm.trans hb) Bool.false_ne_true
  -- neither derivation can stop at a blank, so both go over the same ones
  | blank hb _ ih =>
    cases h' with
    | here => exact absurd (hc.symm.trans hb) Bool.false_ne_true
    | blank _ h' => exact ih h'

/-! ## §2 — values -/

/-- A blank is neither a digit nor a minus sign. -/
theorem SpellsNumber.not_blank {q : ℚ} (h : SpellsNumber q (c :: input) rest) :
    isJsonBlank c = false := by
  cases hb : isJsonBlank c with
  | false => rfl
  | true =>
    -- numbers stop at a blank, but they start with a digit or a minus sign
    have hstop : Stops (c :: input) := stops_blank hb
    have hcases : ((c = ' ' ∨ c = '\t') ∨ c = '\n') ∨ c = '\r' := by simpa [isJsonBlank] using hb
    rcases h.head with rfl | hdigit
    · exact absurd hb (by decide)
    · exact absurd (hdigit.symm.trans (hstop c rfl).1) (by decide)

/-- A blank in front of a value can be left out. -/
theorem Spells.of_blank {v : Value} (hc : isJsonBlank c) (h : Spells v (c :: input) rest) :
    Spells v input rest := by
  cases h with
  | blank _ h => exact h
  | number hq => exact absurd (hc.symm.trans hq.not_blank) (by decide)
  | null | true | false | string | array | object => exact absurd hc (by decide)

/-- No value starts with a closing bracket. -/
theorem Spells.not_close {v : Value} (h : Spells v input rest) (h' : Token ']' input rest') :
    False := by
  induction h' with
  | blank hb _ ih => exact ih (h.of_blank hb)
  | here =>
    cases h with
    | blank hb => exact absurd hb (by decide)
    | number hq => rcases hq.head with h | h <;> exact absurd h (by decide)

/-- Items do not start with the bracket that would close the list. -/
theorem SpellsSomeItems.not_close {items : List Value} (h : SpellsSomeItems items input rest)
    (h' : Token ']' input rest') : False := by
  cases h with
  | last hv => exact hv.not_close h'
  | more hv => exact hv.not_close h'

/-- Members start with a quote, and not with the brace that would close the object. -/
theorem SpellsSomeMembers.not_close {members : List (String × Value)}
    (h : SpellsSomeMembers members input rest) (h' : Token '\x7d' input rest') : False := by
  cases h with
  | last hquote => exact absurd (hquote.char_unique (by decide) (by decide) h') (by decide)
  | more hquote => exact absurd (hquote.char_unique (by decide) (by decide) h') (by decide)

/-- The key of a member, and the value after its colon, start at one place. -/
theorem member_unique {key key' : String} {name name' colon colon' value value' : List Char}
    (hquote : Token '"' input name) (hname : SpellsChars key.toList name colon)
    (hcolon : Token ':' colon value) (hquote' : Token '"' input name')
    (hname' : SpellsChars key'.toList name' colon') (hcolon' : Token ':' colon' value') :
    key = key' ∧ value = value' := by
  obtain rfl := hquote.rest_unique (by decide) hquote'
  obtain ⟨hkey, rfl⟩ := hname.unique hname'
  exact ⟨String.toList_inj.mp hkey, hcolon.rest_unique (by decide) hcolon'⟩

/-! ## §3 — the first character says which rule to go by -/

/-- The word `null` is the missing value only. -/
theorem Spells.of_null {v : Value} (h : Spells v ('n' :: 'u' :: 'l' :: 'l' :: input) rest) :
    v = .null ∧ input = rest := by
  cases h with
  | null => exact ⟨rfl, rfl⟩
  | blank hb => exact absurd hb (by decide)
  | number hq => rcases hq.head with h | h <;> exact absurd h (by decide)

/-- The word `true` is that flag only. -/
theorem Spells.of_true {v : Value} (h : Spells v ('t' :: 'r' :: 'u' :: 'e' :: input) rest) :
    v = .boolean Bool.true ∧ input = rest := by
  cases h with
  | true => exact ⟨rfl, rfl⟩
  | blank hb => exact absurd hb (by decide)
  | number hq => rcases hq.head with h | h <;> exact absurd h (by decide)

/-- The word `false` is that flag only. -/
theorem Spells.of_false {v : Value} (h : Spells v ('f' :: 'a' :: 'l' :: 's' :: 'e' :: input) rest) :
    v = .boolean Bool.false ∧ input = rest := by
  cases h with
  | false => exact ⟨rfl, rfl⟩
  | blank hb => exact absurd hb (by decide)
  | number hq => rcases hq.head with h | h <;> exact absurd h (by decide)

/-- After a quote comes a string. -/
theorem Spells.of_quote {v : Value} (h : Spells v ('"' :: input) rest) :
    ∃ text, v = .string text ∧ SpellsChars text.toList input rest := by
  cases h with
  | string h => exact ⟨_, rfl, h⟩
  | blank hb => exact absurd hb (by decide)
  | number hq => rcases hq.head with h | h <;> exact absurd h (by decide)

/-- After a bracket come the items of a list. -/
theorem Spells.of_bracket {v : Value} (h : Spells v ('[' :: input) rest) :
    ∃ items, v = .array items ∧ SpellsItems items input rest := by
  cases h with
  | array h => exact ⟨_, rfl, h⟩
  | blank hb => exact absurd hb (by decide)
  | number hq => rcases hq.head with h | h <;> exact absurd h (by decide)

/-- After a brace come the members of an object. -/
theorem Spells.of_brace {v : Value} (h : Spells v ('\x7b' :: input) rest) :
    ∃ members, v = .object members ∧ SpellsMembers members input rest := by
  cases h with
  | object h => exact ⟨_, rfl, h⟩
  | blank hb => exact absurd hb (by decide)
  | number hq => rcases hq.head with h | h <;> exact absurd h (by decide)

/-- Where a number is written there is nothing but a number. -/
theorem Spells.of_number {v : Value} {q : ℚ} (hq : SpellsNumber q input rest)
    (h : Spells v input rest') : ∃ r, v = .number r ∧ SpellsNumber r input rest' := by
  cases h with
  | number hr => exact ⟨_, rfl, hr⟩
  | blank hb => exact absurd (hb.symm.trans hq.not_blank) (by decide)
  | null | true | false | string | array | object =>
    rcases hq.head with h | h <;> exact absurd h (by decide)

/-! ## §4 — one value -/

mutual

/-- **An input spells one value, and ends it at one place.** -/
theorem Spells.unique {v w : Value} {input rest rest' : List Char} (h : Spells v input rest)
    (hrest : Stops rest) (h' : Spells w input rest') (hrest' : Stops rest') :
    v = w ∧ rest = rest' := by
  match h with
  -- blanks in front belong to neither value
  | .blank hb h => exact h.unique hrest (h'.of_blank hb) hrest'
  | .null => exact ⟨h'.of_null.1.symm, h'.of_null.2⟩
  | .true => exact ⟨h'.of_true.1.symm, h'.of_true.2⟩
  | .false => exact ⟨h'.of_false.1.symm, h'.of_false.2⟩
  | .number hq =>
    obtain ⟨r, rfl, hr⟩ := Spells.of_number hq h'
    obtain ⟨rfl, rfl⟩ := hq.unique hrest hr hrest'
    exact ⟨rfl, rfl⟩
  | .string h =>
    obtain ⟨text, rfl, hw⟩ := h'.of_quote
    obtain ⟨htext, rfl⟩ := h.unique hw
    exact ⟨congrArg Value.string (String.toList_inj.mp htext), rfl⟩
  | .array h =>
    obtain ⟨items, rfl, hw⟩ := h'.of_bracket
    obtain ⟨rfl, rfl⟩ := h.unique hw
    exact ⟨rfl, rfl⟩
  | .object h =>
    obtain ⟨members, rfl, hw⟩ := h'.of_brace
    obtain ⟨rfl, rfl⟩ := h.unique hw
    exact ⟨rfl, rfl⟩
termination_by structural h

/-- A list has one list of items, and one end. -/
theorem SpellsItems.unique {vs ws : List Value} {input rest rest' : List Char}
    (h : SpellsItems vs input rest) (h' : SpellsItems ws input rest') : vs = ws ∧ rest = rest' := by
  match h with
  | .none h =>
    cases h' with
    | none h' => exact ⟨rfl, h.rest_unique (by decide) h'⟩
    | some h' => exact (h'.not_close h).elim
  | .some h =>
    cases h' with
    | none h' => exact (h.not_close h').elim
    | some h' => exact h.unique h'
termination_by structural h

/-- The same for at least one item, by recursion on the items. -/
theorem SpellsSomeItems.unique {vs ws : List Value} {input rest rest' : List Char}
    (h : SpellsSomeItems vs input rest) (h' : SpellsSomeItems ws input rest') :
    vs = ws ∧ rest = rest' := by
  match h with
  | .last hv hclose =>
    cases h' with
    | last hv' hclose' =>
      obtain ⟨rfl, rfl⟩ := hv.unique (hclose.stops (by decide)) hv' (hclose'.stops (by decide))
      exact ⟨rfl, hclose.rest_unique (by decide) hclose'⟩
    | more hv' hcomma' =>
      -- what ends the list here cannot go on with a comma there
      obtain ⟨-, rfl⟩ := hv.unique (hclose.stops (by decide)) hv' (hcomma'.stops (by decide))
      exact absurd (hclose.char_unique (by decide) (by decide) hcomma') (by decide)
  | .more hv hcomma hitems =>
    cases h' with
    | last hv' hclose' =>
      obtain ⟨-, rfl⟩ := hv.unique (hcomma.stops (by decide)) hv' (hclose'.stops (by decide))
      exact absurd (hcomma.char_unique (by decide) (by decide) hclose') (by decide)
    | more hv' hcomma' hitems' =>
      obtain ⟨rfl, rfl⟩ := hv.unique (hcomma.stops (by decide)) hv' (hcomma'.stops (by decide))
      obtain rfl := hcomma.rest_unique (by decide) hcomma'
      obtain ⟨rfl, rfl⟩ := hitems.unique hitems'
      exact ⟨rfl, rfl⟩
termination_by structural h

/-- An object has one list of members, and one end. -/
theorem SpellsMembers.unique {ms ns : List (String × Value)} {input rest rest' : List Char}
    (h : SpellsMembers ms input rest) (h' : SpellsMembers ns input rest') :
    ms = ns ∧ rest = rest' := by
  match h with
  | .none h =>
    cases h' with
    | none h' => exact ⟨rfl, h.rest_unique (by decide) h'⟩
    | some h' => exact (h'.not_close h).elim
  | .some h =>
    cases h' with
    | none h' => exact (h.not_close h').elim
    | some h' => exact h.unique h'
termination_by structural h

/-- The same for at least one member, by recursion on the members. -/
theorem SpellsSomeMembers.unique {ms ns : List (String × Value)} {input rest rest' : List Char}
    (h : SpellsSomeMembers ms input rest) (h' : SpellsSomeMembers ns input rest') :
    ms = ns ∧ rest = rest' := by
  match h with
  | .last hquote hname hcolon hv hclose =>
    cases h' with
    | last hquote' hname' hcolon' hv' hclose' =>
      obtain ⟨rfl, rfl⟩ := member_unique hquote hname hcolon hquote' hname' hcolon'
      obtain ⟨rfl, rfl⟩ := hv.unique (hclose.stops (by decide)) hv' (hclose'.stops (by decide))
      exact ⟨rfl, hclose.rest_unique (by decide) hclose'⟩
    | more hquote' hname' hcolon' hv' hcomma' =>
      obtain ⟨rfl, rfl⟩ := member_unique hquote hname hcolon hquote' hname' hcolon'
      obtain ⟨-, rfl⟩ := hv.unique (hclose.stops (by decide)) hv' (hcomma'.stops (by decide))
      exact absurd (hclose.char_unique (by decide) (by decide) hcomma') (by decide)
  | .more hquote hname hcolon hv hcomma hmembers =>
    -- the key and the colon fix where the value starts, so that the values can be compared
    cases h' with
    | last hquote' hname' hcolon' hv' hclose' =>
      obtain ⟨rfl, rfl⟩ := member_unique hquote hname hcolon hquote' hname' hcolon'
      obtain ⟨-, rfl⟩ := hv.unique (hcomma.stops (by decide)) hv' (hclose'.stops (by decide))
      exact absurd (hcomma.char_unique (by decide) (by decide) hclose') (by decide)
    | more hquote' hname' hcolon' hv' hcomma' hmembers' =>
      obtain ⟨rfl, rfl⟩ := member_unique hquote hname hcolon hquote' hname' hcolon'
      obtain ⟨rfl, rfl⟩ := hv.unique (hcomma.stops (by decide)) hv' (hcomma'.stops (by decide))
      obtain rfl := hcomma.rest_unique (by decide) hcomma'
      obtain ⟨rfl, rfl⟩ := hmembers.unique hmembers'
      exact ⟨rfl, rfl⟩
termination_by structural h

end

/-- **A text stands for one value.** -/
theorem Value.IsText.unique {v w : Value} {text : String} (h : v.IsText text) (h' : w.IsText text) :
    v = w := by
  obtain ⟨rest, hv, hrest⟩ := h
  obtain ⟨rest', hw, hrest'⟩ := h'
  exact (hv.unique (stops_of_blanks hrest) hw (stops_of_blanks hrest')).1

end Registrar.Json
