import Registrar.Proofs.Json.Numbers
import Registrar.Proofs.Lists
import Registrar.Text.Template

/-!
# Substitution into templates

What stands for each character of a template can be said place by place, looking at nothing but the
template: an argument stands where a placeholder begins, nothing stands for the rest of a
placeholder, and any other character stands for itself. Filling in a template gives what these parts
make up, so whatever an argument holds is left alone.

* `Numbers`, `HasPlaceholder` : where a template has a placeholder.
* `HasPlaceholder.apart` : placeholders do not overlap.
* `StandsFor`, `Substitution` : what stands for each place, and what all of it makes up.
* `substitution_iff` : filling in a template is substitution.
* `mem_render` : each character of the result is from the template or from an argument.
* `Gapped.pieces_template` : the placeholders of the template of a text with gaps are its gaps.
* `render_template` : so it is filled in like this text.
* `exists_hasPlaceholder_template` : and it opens no brace but those of its placeholders.
-/

namespace Registrar.Text

/-! ## §1 — placeholders -/

/-- `inner` writes the number `index`, which fits into a word: one plus sign at most, then digits. -/
structure WritesIndex (inner : List Char) (index : Nat) : Prop where
  written : ∃ digits, (inner = digits ∨ inner = '+' :: digits) ∧ digits ≠ [] ∧
    (∀ c ∈ digits, c.isDigit = true) ∧ digitsValue digits = index
  fits : index < wordCount

/-- At place `i` a placeholder for one of `count` arguments begins: the number of the argument in
braces. -/
structure HasPlaceholder (count : Nat) (cs : List Char) (i : Nat) (inner : List Char)
    (index : Nat) : Prop where
  here : ∃ after, cs.drop i = '\x7b' :: (inner ++ '\x7d' :: after)
  writes : WritesIndex inner index
  given : index < count

variable {count : Nat} {cs inner inner' : List Char} {i j index index' : Nat}

/-- What is read as an index is what writes it. -/
theorem placeholderIndex?_eq_some_iff :
    placeholderIndex? inner = some index ↔ WritesIndex inner index := by
  constructor
  · intro h
    unfold placeholderIndex? at h
    have hdigits : inner = placeholderIndex?.dropPlus inner ∨
        inner = '+' :: placeholderIndex?.dropPlus inner := by
      unfold placeholderIndex?.dropPlus
      split
      · exact Or.inr rfl
      · exact Or.inl rfl
    dsimp only at h
    split at h
    · exact absurd h (by simp)
    · next hproper =>
      split at h
      · next hfits =>
        obtain rfl := Option.some.inj h
        have hproper' : placeholderIndex?.dropPlus inner ≠ [] ∧
            ∀ c ∈ placeholderIndex?.dropPlus inner, c.isDigit = true := by
          simpa using hproper
        exact ⟨⟨_, hdigits, hproper'.1, hproper'.2, rfl⟩, hfits⟩
      · exact absurd h (by simp)
  · rintro ⟨⟨digits, hinner, hne, hdigits, rfl⟩, hfits⟩
    have hdrop : placeholderIndex?.dropPlus inner = digits := by
      rcases hinner with rfl | rfl
      · -- digits do not begin with a plus sign
        unfold placeholderIndex?.dropPlus
        split
        · exact absurd (hdigits '+' List.mem_cons_self) (by decide)
        · rfl
      · rfl
    have hproper : (digits.isEmpty || !digits.all Char.isDigit) = false := by
      simpa [hne] using hdigits
    unfold placeholderIndex?
    simp only [hdrop, hproper, if_pos hfits]
    rfl

theorem WritesIndex.unique (h : WritesIndex inner index) (h' : WritesIndex inner index') :
    index = index' := by
  rw [← placeholderIndex?_eq_some_iff] at h h'
  exact Option.some.inj (h.symm.trans h')

/-- There is no brace in a number. -/
theorem WritesIndex.not_brace (h : WritesIndex inner index) {c : Char} (hc : c ∈ inner) :
    c ≠ '\x7b' ∧ c ≠ '\x7d' := by
  obtain ⟨digits, hinner, -, hdigits, -⟩ := h.written
  have hcases : c.isDigit = true ∨ c = '+' := by
    rcases hinner with rfl | rfl
    · exact Or.inl (hdigits c hc)
    · rcases List.mem_cons.mp hc with rfl | hc
      · exact Or.inr rfl
      · exact Or.inl (hdigits c hc)
  rcases hcases with hdigit | rfl
  · constructor
    · rintro rfl
      exact absurd hdigit (by decide)
    · rintro rfl
      exact absurd hdigit (by decide)
  · decide

/-- After an open brace a placeholder is read if an index and a closing brace follow, and if there
is an argument for it. -/
theorem placeholder?_eq_some_iff {rest after : List Char} :
    placeholder? count rest = some (inner, index, after) ↔
      rest = inner ++ '\x7d' :: after ∧ WritesIndex inner index ∧ index < count := by
  constructor
  · intro h
    obtain ⟨hrest, -, hindex, hgiven⟩ := placeholder?_eq_some h
    exact ⟨hrest, placeholderIndex?_eq_some_iff.mp hindex, hgiven⟩
  · rintro ⟨rfl, hwrites, hgiven⟩
    -- the index is read up to the first closing brace, and there is none in it
    have hrun : ∀ c ∈ inner, (decide (c ≠ '\x7d')) = true := by
      intro c hc
      exact decide_eq_true (hwrites.not_brace hc).2
    have hstop : ∀ c ∈ ('\x7d' :: after).head?, (decide (c ≠ '\x7d')) = false := by
      intro c hc
      obtain rfl := Option.some.inj hc
      rfl
    unfold placeholder?
    rw [dropWhile_append_stop hrun hstop, takeWhile_append_stop hrun hstop]
    simp only [placeholderIndex?_eq_some_iff.mpr hwrites, if_pos hgiven]

/-- What is read after the brace at a place is a placeholder there. -/
theorem hasPlaceholder_of_placeholder? {rest after : List Char} (htail : cs.drop i = '\x7b' :: rest)
    (h : placeholder? count rest = some (inner, index, after)) :
    HasPlaceholder count cs i inner index := by
  obtain ⟨rfl, hwrites, hgiven⟩ := placeholder?_eq_some_iff.mp h
  exact ⟨⟨after, htail⟩, hwrites, hgiven⟩

namespace HasPlaceholder

/-- At one place there is one placeholder at most. -/
theorem unique (h : HasPlaceholder count cs i inner index)
    (h' : HasPlaceholder count cs i inner' index') : inner = inner' ∧ index = index' := by
  obtain ⟨after, hhere⟩ := h.here
  obtain ⟨after', hhere'⟩ := h'.here
  have heq := (List.cons.inj (hhere.symm.trans hhere')).2
  -- both end at the first closing brace
  have hclose : '\x7d' ∉ inner := fun hc => (h.writes.not_brace hc).2 rfl
  have hclose' : '\x7d' ∉ inner' := fun hc => (h'.writes.not_brace hc).2 rfl
  obtain ⟨rfl, -⟩ := eq_of_append_cons_eq hclose hclose' heq
  exact ⟨rfl, h.writes.unique h'.writes⟩

theorem getElem?_self (h : HasPlaceholder count cs i inner index) : cs[i]? = some '\x7b' := by
  obtain ⟨after, hhere⟩ := h.here
  rw [← Nat.add_zero i, ← List.getElem?_drop, hhere]
  rfl

/-- Only its first character opens a brace. -/
theorem getElem?_inside (h : HasPlaceholder count cs i inner index) (hij : i < j)
    (hj : j < i + inner.length + 2) : cs[j]? ≠ some '\x7b' := by
  obtain ⟨after, hhere⟩ := h.here
  obtain ⟨d, rfl⟩ := Nat.exists_eq_add_of_lt hij
  rw [Nat.add_assoc, ← List.getElem?_drop, hhere, List.getElem?_cons_succ]
  intro hopen
  by_cases hlast : d = inner.length
  · -- the closing brace
    rw [hlast, List.getElem?_append_right (Nat.le_refl _), Nat.sub_self] at hopen
    exact absurd (Option.some.inj hopen) (by decide)
  · rw [List.getElem?_append_left (by omega)] at hopen
    exact (h.writes.not_brace (List.mem_of_getElem? hopen)).1 rfl

/-- **Placeholders do not overlap.** -/
theorem apart (h : HasPlaceholder count cs i inner index)
    (h' : HasPlaceholder count cs j inner' index') (hij : i < j) : i + inner.length + 2 ≤ j := by
  by_contra hlt
  exact h.getElem?_inside hij (by omega) h'.getElem?_self

end HasPlaceholder

/-! ## §2 — what stands for each place -/

variable {args : List String}

/-- What stands for place `i` of a template. -/
inductive StandsFor (args : List String) (cs : List Char) (i : Nat) : List Char → Prop where
  | argument {inner : List Char} {index : Nat} {arg : String}
      (starts : HasPlaceholder args.length cs i inner index) (arg_eq : args[index]? = some arg) :
      StandsFor args cs i arg.toList
  | inside {j index : Nat} {inner : List Char}
      (starts : HasPlaceholder args.length cs j inner index) (after : j < i)
      (before : i < j + inner.length + 2) : StandsFor args cs i []
  | itself {c : Char} (char : cs[i]? = some c)
      (outside : ∀ j inner index, HasPlaceholder args.length cs j inner index →
        ¬ (j ≤ i ∧ i < j + inner.length + 2)) : StandsFor args cs i [c]

/-- `filled` is made up of what stands for the places of the template, in order. -/
def Substitution (cs : List Char) (args : List String) (filled : List Char) : Prop :=
  ∃ parts : List (List Char), parts.length = cs.length ∧
    (∀ i part, parts[i]? = some part → StandsFor args cs i part) ∧ parts.flatten = filled

/-- Only one thing stands for a place, as placeholders do not overlap. -/
theorem StandsFor.unique {part part' : List Char} (h : StandsFor args cs i part)
    (h' : StandsFor args cs i part') : part = part' := by
  have hclash : ∀ {j index index' : Nat} {inner inner' : List Char},
      HasPlaceholder args.length cs i inner index →
      HasPlaceholder args.length cs j inner' index' → j < i → ¬ i < j + inner'.length + 2 := by
    intro j index index' inner inner' hi hj hlt hbefore
    have hapart := hj.apart hi hlt
    omega
  -- a place that begins a placeholder, one inside of it, and one outside of all
  cases h with
  | argument starts arg_eq =>
    cases h' with
    | argument starts' arg_eq' =>
      obtain ⟨-, rfl⟩ := starts.unique starts'
      rw [Option.some.inj (arg_eq.symm.trans arg_eq')]
    | inside starts' after before => exact absurd before (hclash starts starts' after)
    | itself _ outside => exact absurd ⟨Nat.le_refl _, by omega⟩ (outside _ _ _ starts)
  | inside starts after before =>
    cases h' with
    | argument starts' => exact absurd before (hclash starts' starts after)
    | inside => rfl
    | itself _ outside => exact absurd ⟨Nat.le_of_lt after, before⟩ (outside _ _ _ starts)
  | itself char outside =>
    cases h' with
    | argument starts => exact absurd ⟨Nat.le_refl _, by omega⟩ (outside _ _ _ starts)
    | inside starts after before =>
      exact absurd ⟨Nat.le_of_lt after, before⟩ (outside _ _ _ starts)
    | itself char' => rw [Option.some.inj (char.symm.trans char')]

/-- **A template is filled in one way.** Place by place there is no choice. -/
theorem Substitution.unique {filled filled' : List Char} (h : Substitution cs args filled)
    (h' : Substitution cs args filled') : filled = filled' := by
  obtain ⟨parts, hlength, hstands, rfl⟩ := h
  obtain ⟨parts', hlength', hstands', rfl⟩ := h'
  have heq : parts = parts' := by
    apply List.ext_getElem (hlength.trans hlength'.symm)
    intro i hi hi'
    exact (hstands i _ (List.getElem?_eq_getElem hi)).unique
      (hstands' i _ (List.getElem?_eq_getElem hi'))
  rw [heq]

/-! ## §3 — filling in a template -/

/-- What the characters of a piece contribute: all of a placeholder's argument stands at its first
one. -/
def Piece.parts (args : List String) (piece : Piece) : List (List Char) :=
  piece.fill args :: List.replicate (piece.source.length - 1) []

/-- What the characters of pieces contribute is what the pieces are filled with. -/
theorem flatten_flatMap_parts (ps : List Piece) :
    (ps.flatMap (Piece.parts args)).flatten = ps.flatMap (Piece.fill args) := by
  induction ps with
  | nil => rfl
  | cons piece ps ih =>
    rw [List.flatMap_cons, List.flatMap_cons, List.flatten_append, ih]
    simp [Piece.parts]

theorem Piece.length_parts (piece : Piece) :
    (piece.parts args).length = piece.source.length := by
  cases piece <;> simp [parts, source]

/-- Every placeholder that begins before place `i` has ended there. -/
def Between (count : Nat) (cs : List Char) (i : Nat) : Prop :=
  ∀ j inner index, HasPlaceholder count cs j inner index → j < i → j + inner.length + 2 ≤ i

/-- Behind a placeholder none is open, as no other one began inside of it. -/
theorem Between.after (h : HasPlaceholder count cs i inner index) (hbetween : Between count cs i) :
    Between count cs (i + inner.length + 2) := by
  intro j inner' index' hj hlt
  -- one that began before, this one, and one that began behind its brace
  rcases Nat.lt_trichotomy j i with hbefore | rfl | hafter
  · have hle := hbetween j inner' index' hj hbefore
    omega
  · obtain ⟨rfl, -⟩ := h.unique hj
    exact Nat.le_refl _
  · have hapart := h.apart hj hafter
    omega

/-- Nor is one open behind a place where none begins. -/
theorem Between.succ (h : ∀ inner index, ¬ HasPlaceholder count cs i inner index)
    (hbetween : Between count cs i) : Between count cs (i + 1) := by
  intro j inner index hj hlt
  rcases Nat.lt_succ_iff_lt_or_eq.mp hlt with hbefore | rfl
  · have hle := hbetween j inner index hj hbefore
    omega
  · exact absurd hj (h inner index)

theorem drop_succ_of_drop_eq_cons {c : Char} {rest : List Char} (h : cs.drop i = c :: rest) :
    cs.drop (i + 1) = rest := by
  rw [← List.drop_drop, h]
  rfl

/-- What is left to be read after a placeholder is what begins behind it. -/
theorem drop_after_placeholder {rest after : List Char} (htail : cs.drop i = '\x7b' :: rest)
    (h : placeholder? count rest = some (inner, index, after)) :
    cs.drop (i + inner.length + 2) = after := by
  rw [Nat.add_assoc, ← List.drop_drop, htail, (placeholder?_eq_some h).1]
  simp

/-- No placeholder begins with anything but a brace. -/
theorem not_hasPlaceholder_of_ne {c : Char} {rest : List Char} (htail : cs.drop i = c :: rest)
    (hc : c ≠ '\x7b') : ¬ HasPlaceholder count cs i inner index := by
  intro h
  obtain ⟨after, hhere⟩ := h.here
  exact hc (List.cons.inj (htail.symm.trans hhere)).1

/-- Nor where none is read. -/
theorem not_hasPlaceholder_of_none {rest : List Char} (htail : cs.drop i = '\x7b' :: rest)
    (hnone : placeholder? count rest = none) : ¬ HasPlaceholder count cs i inner index := by
  intro h
  obtain ⟨after, hhere⟩ := h.here
  have hrest := (List.cons.inj (htail.symm.trans hhere)).2
  have hsome := placeholder?_eq_some_iff.mpr ⟨hrest, h.writes, h.given⟩
  exact absurd (hnone.symm.trans hsome) (by simp)

/-- `parts` stand for the places of the template from `i` on. -/
def StandFrom (args : List String) (cs : List Char) (i : Nat) (parts : List (List Char)) : Prop :=
  ∀ d part, parts[d]? = some part → StandsFor args cs (i + d) part

/-- A character at which no placeholder begins and none is open stands for itself. -/
theorem StandFrom.itself {parts : List (List Char)} {c : Char} {rest : List Char}
    (hmore : StandFrom args cs (i + 1) parts) (htail : cs.drop i = c :: rest)
    (hbetween : Between args.length cs i)
    (hnone : ∀ inner index, ¬ HasPlaceholder args.length cs i inner index) :
    StandFrom args cs i ([c] :: parts) := by
  intro d part hpart
  cases d with
  | zero =>
    obtain rfl := Option.some.inj hpart
    refine .itself ?_ ?_
    · rw [← List.getElem?_drop, htail]
      rfl
    · rintro j inner index hj ⟨hle, hlt⟩
      rcases Nat.lt_or_eq_of_le hle with hbefore | rfl
      · have hended := hbetween j inner index hj hbefore
        omega
      · exact hnone inner index hj
  | succ e =>
    rw [List.getElem?_cons_succ] at hpart
    have hstands := hmore e part hpart
    rwa [show i + 1 + e = i + (e + 1) by omega] at hstands

/-- The argument stands for the first character of its placeholder and nothing for the others. -/
theorem StandFrom.placeholder {parts : List (List Char)}
    (hmore : StandFrom args cs (i + inner.length + 2) parts)
    (hstarts : HasPlaceholder args.length cs i inner index) :
    StandFrom args cs i ((Piece.placeholder inner index).parts args ++ parts) := by
  intro d part hpart
  have hlength : ((Piece.placeholder inner index).parts args).length = inner.length + 2 := by
    rw [Piece.length_parts]
    simp [Piece.source]
  by_cases hd : d < inner.length + 2
  · rw [List.getElem?_append_left (by omega), Piece.parts] at hpart
    cases d with
    | zero =>
      obtain rfl := Option.some.inj hpart
      obtain ⟨arg, harg⟩ : ∃ arg, args[index]? = some arg :=
        ⟨_, List.getElem?_eq_getElem hstarts.given⟩
      have hfill : (Piece.placeholder inner index).fill args = arg.toList := by
        simp only [Piece.fill, harg]
      rw [hfill]
      exact .argument hstarts harg
    | succ e =>
      rw [List.getElem?_cons_succ] at hpart
      obtain rfl := List.eq_of_mem_replicate (List.mem_of_getElem? hpart)
      exact .inside hstarts (by omega) (by omega)
  · rw [List.getElem?_append_right (by omega), hlength] at hpart
    have hstands := hmore _ part hpart
    rwa [show i + inner.length + 2 + (d - (inner.length + 2)) = i + d by omega] at hstands

/-- **The pieces of a template contribute what stands for its places.** Induction on the pieces from
place `i` on, where no placeholder is open: a piece is a placeholder if one begins there and a
single character otherwise, and none is open after it. -/
theorem standFrom_pieces {tail : List Char} (hbetween : Between args.length cs i)
    (htail : cs.drop i = tail) :
    StandFrom args cs i ((pieces args.length tail).flatMap (Piece.parts args)) := by
  fun_induction pieces args.length tail generalizing i with
  | case1 =>
    intro d part hpart
    exact absurd hpart (by simp)
  | case2 rest inner index after h _ ih =>
    have hstarts := hasPlaceholder_of_placeholder? htail h
    have hafter := drop_after_placeholder htail h
    rw [List.flatMap_cons]
    exact (ih (hbetween.after hstarts) hafter).placeholder hstarts
  | case3 rest h ih =>
    have hnone : ∀ inner index, ¬ HasPlaceholder args.length cs i inner index :=
      fun _ _ => not_hasPlaceholder_of_none htail h
    exact (ih (hbetween.succ hnone) (drop_succ_of_drop_eq_cons htail)).itself htail hbetween hnone
  | case4 c rest hc ih =>
    have hnone : ∀ inner index, ¬ HasPlaceholder args.length cs i inner index :=
      fun _ _ => not_hasPlaceholder_of_ne htail hc
    exact (ih (hbetween.succ hnone) (drop_succ_of_drop_eq_cons htail)).itself htail hbetween hnone

/-- **Filling in a template is substitution.** -/
theorem substitution_iff {template : String} {filled : List Char} :
    Substitution template.toList args filled ↔ filled = (render template args).toList := by
  have hrender : Substitution template.toList args (render template args).toList := by
    refine ⟨(pieces args.length template.toList).flatMap (Piece.parts args), ?_, ?_, ?_⟩
    · rw [← flatMap_source_pieces args.length template.toList, List.length_flatMap,
        List.length_flatMap, flatMap_source_pieces]
      simp only [Piece.length_parts]
    · intro i part hpart
      have hopen : Between args.length template.toList 0 :=
        fun _ _ _ _ hj => absurd hj (Nat.not_lt_zero _)
      have hstands := standFrom_pieces hopen List.drop_zero i part hpart
      rwa [Nat.zero_add] at hstands
    · rw [flatten_flatMap_parts, render, String.toList_ofList]
  constructor
  · intro h
    exact h.unique hrender
  · rintro rfl
    exact hrender

/-- Every character of a filled template comes from the template or from an argument. -/
theorem mem_render {template : String} {c : Char} (h : c ∈ (render template args).toList) :
    c ∈ template.toList ∨ ∃ arg ∈ args, c ∈ arg.toList := by
  rw [render, String.toList_ofList, List.mem_flatMap] at h
  obtain ⟨piece, hpiece, hc⟩ := h
  have hsource : c ∈ piece.source → c ∈ template.toList := by
    intro hsource
    rw [← flatMap_source_pieces args.length template.toList]
    exact List.mem_flatMap.mpr ⟨piece, hpiece, hsource⟩
  cases piece with
  | char => exact Or.inl (hsource hc)
  | placeholder inner index =>
    -- the index of a placeholder that is read has an argument, but that need not be shown here
    cases harg : args[index]? with
    | some arg =>
      simp only [Piece.fill, harg] at hc
      exact Or.inr ⟨arg, List.mem_of_getElem? harg, hc⟩
    | none =>
      simp only [Piece.fill, harg] at hc
      exact Or.inl (hsource hc)

/-! ## §4 — fixed parts with gaps between them -/

/-- A text with gaps: what comes first, and what follows each gap. -/
structure Gapped where
  first : String
  rest : List String

namespace Gapped

/-- The text with its gaps filled. -/
def fillWith (text : Gapped) (fillers : List String) : String :=
  text.first ++ String.join (List.zipWith (· ++ ·) fillers text.rest)

/-- The number of a gap in braces. -/
def placeholderText (index : Nat) : String := "\x7b" ++ toString index ++ "\x7d"

/-- The text as a template, with its gaps numbered. -/
def template (text : Gapped) : String :=
  text.fillWith ((List.range text.rest.length).map placeholderText)

/-- No brace is opened in the fixed parts. -/
def IsFree (text : Gapped) : Prop := ∀ part ∈ text.first :: text.rest, '\x7b' ∉ part.toList

end Gapped

theorem flatMap_fill_char (front : List Char) :
    (front.map Piece.char).flatMap (Piece.fill args) = front := by
  rw [List.flatMap_map]
  exact List.flatMap_singleton' front

/-- Up to the first brace all pieces are single characters. -/
theorem pieces_append {front back : List Char} (hfront : '\x7b' ∉ front) :
    pieces count (front ++ back) = front.map .char ++ pieces count back := by
  induction front with
  | nil => rfl
  | cons c front ih =>
    have hc : c ≠ '\x7b' := fun hc => hfront (hc ▸ List.mem_cons_self)
    rw [List.cons_append, pieces, if_neg hc, ih (List.not_mem_of_not_mem_cons hfront)]
    rfl

/-- An index in braces is the first piece. -/
theorem pieces_placeholder {after : List Char} (hwrites : WritesIndex inner index)
    (hgiven : index < count) :
    pieces count ('\x7b' :: (inner ++ '\x7d' :: after)) =
      .placeholder inner index :: pieces count after := by
  have hsome : placeholder? count (inner ++ '\x7d' :: after) = some (inner, index, after) :=
    placeholder?_eq_some_iff.mpr ⟨rfl, hwrites, hgiven⟩
  rw [pieces, if_pos rfl]
  split
  · next h =>
    obtain ⟨rfl, rfl, rfl⟩ := by simpa using h.symm.trans hsome
    rfl
  · next h => exact absurd (h.symm.trans hsome) (by simp)

/-- A number that fits writes itself. -/
theorem writesIndex_toString (hfits : index < wordCount) :
    WritesIndex (toString index).toList index := by
  have htext : (toString index).toList = Nat.toDigits 10 index := by
    rw [Nat.toString_eq_ofList_toDigits, String.toList_ofList]
  rw [htext]
  refine ⟨⟨_, Or.inl rfl, Nat.toDigits_ne_nil, ?_, Json.digitsValue_toDigits index⟩, hfits⟩
  intro c hc
  exact Nat.isDigit_of_mem_toDigits (by decide) (by decide) hc

namespace Gapped

/-- The pieces of the gaps from number `i` on, each with the fixed part after it. -/
def gapPieces : Nat → List String → List Piece
  | _, [] => []
  | i, part :: rest =>
    .placeholder (toString i).toList i :: (part.toList.map .char ++ gapPieces (i + 1) rest)

/-- The pieces of the text as a template. -/
def pieces (text : Gapped) : List Piece := text.first.toList.map .char ++ gapPieces 0 text.rest

variable {text : Gapped} {rest : List String}

/-- **The numbered gaps with the parts after them** are read as such. Induction on the parts, of
which the first has the lowest number. -/
theorem pieces_gaps (hfree : ∀ part ∈ rest, '\x7b' ∉ part.toList)
    (hlength : i + rest.length = count) (hfits : count ≤ wordCount) :
    Text.pieces count ((List.zipWith (· ++ ·)
      ((List.range' i rest.length).map placeholderText) rest).flatMap String.toList) =
        gapPieces i rest := by
  induction rest generalizing i with
  | nil => simp [Text.pieces, gapPieces]
  | cons part rest ih =>
    rw [List.length_cons] at hlength
    have hi : i < count := by omega
    have hmore := ih (fun part hpart => hfree part (List.mem_cons_of_mem _ hpart))
      (show i + 1 + rest.length = count by omega)
    have hgap : ∀ tail : List Char, (placeholderText i).toList ++ tail =
        '\x7b' :: ((toString i).toList ++ '\x7d' :: tail) := by
      intro tail
      rw [placeholderText, String.toList_append, String.toList_append, List.append_assoc,
        List.append_assoc]
      rfl
    rw [List.length_cons, List.range'_succ, List.map_cons, List.zipWith_cons_cons,
      List.flatMap_cons, String.toList_append, List.append_assoc, hgap,
      pieces_placeholder (writesIndex_toString (Nat.lt_of_lt_of_le hi hfits)) hi,
      pieces_append (hfree part List.mem_cons_self), hmore]
    rfl

/-- **The placeholders of the template are its numbered gaps.** -/
theorem pieces_template (hfree : text.IsFree) (hfits : text.rest.length ≤ wordCount) :
    Text.pieces text.rest.length text.template.toList = text.pieces := by
  have hrest : ∀ part ∈ text.rest, '\x7b' ∉ part.toList :=
    fun part hpart => hfree part (List.mem_cons_of_mem _ hpart)
  rw [template, fillWith, String.toList_append, String.toList_join,
    pieces_append (hfree text.first List.mem_cons_self), List.range_eq_range',
    pieces_gaps hrest (Nat.zero_add _) hfits]
  rfl

/-- They are filled with the arguments from the number of the first gap on. -/
theorem fill_gapPieces (hlength : i + rest.length = args.length) :
    (gapPieces i rest).flatMap (Piece.fill args) =
      (List.zipWith (· ++ ·) (args.drop i) rest).flatMap String.toList := by
  induction rest generalizing i with
  | nil => simp [gapPieces]
  | cons part rest ih =>
    rw [List.length_cons] at hlength
    have hi : i < args.length := by omega
    -- the first gap takes the argument with its number
    have hfill : (Piece.placeholder (toString i).toList i).fill args = args[i].toList := by
      simp only [Piece.fill, List.getElem?_eq_getElem hi]
    rw [gapPieces, List.flatMap_cons, List.flatMap_append, flatMap_fill_char, hfill,
      ih (by omega), List.drop_eq_getElem_cons hi, List.zipWith_cons_cons, List.flatMap_cons,
      String.toList_append, List.append_assoc]

/-- No piece of them is a brace alone. -/
theorem not_mem_gapPieces (hfree : ∀ part ∈ rest, '\x7b' ∉ part.toList) :
    Piece.char '\x7b' ∉ gapPieces i rest := by
  induction rest generalizing i with
  | nil => exact List.not_mem_nil
  | cons part rest ih =>
    have hmore : Piece.char '\x7b' ∉ gapPieces (i + 1) rest :=
      ih fun part hpart => hfree part (List.mem_cons_of_mem _ hpart)
    have hpart := hfree part List.mem_cons_self
    simp [gapPieces, hpart, hmore]

end Gapped

/-- **A template is filled in like the text with gaps that it writes.** -/
theorem render_template {text : Gapped} (hfree : text.IsFree)
    (hlength : args.length = text.rest.length) (hfits : text.rest.length ≤ wordCount) :
    render text.template args = text.fillWith args := by
  rw [← String.toList_inj, render, String.toList_ofList, hlength,
    Gapped.pieces_template hfree hfits, Gapped.pieces, List.flatMap_append, flatMap_fill_char,
    Gapped.fill_gapPieces (by omega), List.drop_zero, Gapped.fillWith, String.toList_append,
    String.toList_join]

/-- Each brace that is opened opens a placeholder, if no piece is such a brace alone. -/
theorem exists_hasPlaceholder {tail : List Char} (hpieces : .char '\x7b' ∉ pieces count tail)
    (htail : cs.drop i = tail) (hij : i ≤ j) (hopen : cs[j]? = some '\x7b') :
    ∃ inner index, HasPlaceholder count cs j inner index := by
  fun_induction pieces count tail generalizing i with
  | case1 =>
    -- the template has ended
    have hlength : cs.length ≤ j := Nat.le_trans (List.drop_eq_nil_iff.mp htail) hij
    rw [List.getElem?_eq_none hlength] at hopen
    exact absurd hopen (by simp)
  | case2 rest inner index after h _ ih =>
    have hstarts := hasPlaceholder_of_placeholder? htail h
    have hafter := drop_after_placeholder htail h
    rcases Nat.eq_or_lt_of_le hij with rfl | hlt
    · exact ⟨inner, index, hstarts⟩
    · have hpast : i + inner.length + 2 ≤ j := by
        by_contra hinside
        exact hstarts.getElem?_inside hlt (by omega) hopen
      exact ih (fun hmem => hpieces (List.mem_cons_of_mem _ hmem)) hafter hpast
  | case3 rest h ih =>
    -- a brace alone is no piece of the template
    exact absurd List.mem_cons_self hpieces
  | case4 c rest hc ih =>
    rcases Nat.eq_or_lt_of_le hij with rfl | hlt
    · rw [← Nat.add_zero i, ← List.getElem?_drop, htail] at hopen
      exact absurd (Option.some.inj hopen) hc
    · exact ih (fun hmem => hpieces (List.mem_cons_of_mem _ hmem))
        (drop_succ_of_drop_eq_cons htail) hlt

/-- In the template of a text with gaps every brace that is opened opens a placeholder. -/
theorem exists_hasPlaceholder_template {text : Gapped} (hfree : text.IsFree)
    (hfits : text.rest.length ≤ wordCount) (hopen : text.template.toList[i]? = some '\x7b') :
    ∃ inner index, HasPlaceholder text.rest.length text.template.toList i inner index := by
  apply exists_hasPlaceholder _ List.drop_zero (Nat.zero_le i) hopen
  have hgaps : Piece.char '\x7b' ∉ Gapped.gapPieces 0 text.rest :=
    Gapped.not_mem_gapPieces fun part hpart => hfree part (List.mem_cons_of_mem _ hpart)
  have hfirst := hfree text.first List.mem_cons_self
  rw [Gapped.pieces_template hfree hfits, Gapped.pieces]
  simp [hfirst, hgaps]

end Registrar.Text
