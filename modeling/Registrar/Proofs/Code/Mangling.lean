import Registrar.Proofs.Code.LocalNames

/-!
# What is left of a type name for an identifier

The words of a type name come with single underscores between them, so nothing is lost when they
are taken apart again; what a type name comes to is left alone from then on.

* `exists_words` : what a type name comes to is made of words, whatever the name is.
* `mangle_of_words` : what is made of words is left alone.
* `isTidy_mangle` : no underscore is where it need not be.
* `mangle_mangle` : a second time changes nothing.
-/

namespace Registrar

/-! ## §1 — parts and what stands between them -/

/-- Parts that are put together can be taken apart again. -/
theorem Text.splitWhere_intercalate {p : Char → Bool} {separator : Char} (h : p separator = true)
    {parts : List (List Char)} (hne : parts ≠ [])
    (hparts : ∀ part ∈ parts, ∀ c ∈ part, p c = false) :
    splitWhere p ([separator].intercalate parts) = parts := by
  induction parts with
  | nil => exact absurd rfl hne
  | cons part parts ih =>
    obtain ⟨hpart, hmore⟩ := List.forall_mem_cons.mp hparts
    -- there is a separator only where another part follows
    cases parts with
    | nil => rw [List.intercalate_singleton, splitWhere_of_none hpart]
    | cons next parts =>
      rw [List.intercalate_cons_cons, List.append_assoc, List.singleton_append,
        splitWhere_append_cons h, splitWhere_of_none hpart, ih (List.cons_ne_nil _ _) hmore]
      rfl

namespace Code

/-! ## §2 — words -/

/-- Words as they are found in a name. -/
def AreWords (ws : List (List Char)) : Prop :=
  ∀ word ∈ ws, word ≠ [] ∧ ∀ c ∈ word, Text.isAlphanumeric c = true

/-- The words of a name are what lies between other characters, without the empty ones. -/
theorem areWords_words (cs : List Char) : AreWords (words cs) := by
  intro word hword
  obtain ⟨hmem, hne⟩ := List.mem_filter.mp hword
  refine ⟨by simpa using hne, fun c hc => ?_⟩
  simpa using Text.not_of_mem_splitWhere hmem hc

/-- **What a type name comes to is made of words**, also if there is none in the name. -/
theorem exists_words (name : String) :
    ∃ ws, ws ≠ [] ∧ AreWords ws ∧ (mangle name).toList = ['_'].intercalate ws := by
  rw [mangle, String.toList_ofList]
  -- a name without any word gets a fixed one
  split
  · refine ⟨[wordlessPart], List.cons_ne_nil _ _, ?_, (List.intercalate_singleton ..).symm⟩
    have hservice : wordlessPart.all Text.isAlphanumeric = true := by decide
    exact List.forall_mem_singleton.mpr ⟨List.cons_ne_nil _ _, List.all_eq_true.mp hservice⟩
  · next ws hws => exact ⟨_, fun hnil => hws hnil, areWords_words _, rfl⟩

variable {ws : List (List Char)}

/-- Cut at the underscores, words with single underscores between them come apart. -/
theorem splitWhere_words (hne : ws ≠ []) (h : AreWords ws) :
    Text.splitWhere (fun c => !Text.isAlphanumeric c) (['_'].intercalate ws) = ws :=
  Text.splitWhere_intercalate (by simp [Text.isAlphanumeric_underscore]) hne
    fun word hword c hc => by simp [(h word hword).2 c hc]

/-- So they are the words that are found in it. -/
theorem words_intercalate (hne : ws ≠ []) (h : AreWords ws) :
    words (['_'].intercalate ws) = ws := by
  rw [words, splitWhere_words hne h, List.filter_eq_self]
  intro word hword
  simpa using (h word hword).1

/-- **What is made of words is left alone.** -/
theorem mangle_of_words {text : String} (hne : ws ≠ []) (h : AreWords ws)
    (htext : text.toList = ['_'].intercalate ws) : mangle text = text := by
  have hword : IsWord text := by
    intro c hc
    rw [htext] at hc
    rcases mem_intercalate hc with hline | ⟨word, hword, hc⟩
    · exact Or.inl (List.mem_singleton.mp hline)
    · exact Or.inr ((h word hword).2 c hc)
  -- a word has no colon, so there is no alias in front
  have halias : Text.dropStart? "global::".toList text.toList = none := by
    rw [Option.eq_none_iff_forall_ne_some]
    intro rest hrest
    rw [Text.dropStart?_eq_some_iff] at hrest
    exact not_mem_of_isLabel hword.isLabel (c := ':') (by decide) (by decide) (by decide)
      (by simp [hrest])
  rw [mangle, halias, Option.getD_none, htext, words_intercalate hne h, ← String.toList_inj,
    String.toList_ofList, htext]
  cases ws with
  | nil => exact absurd rfl hne
  | cons word ws => rfl

/-! ## §3 — tidiness -/

/-- A word in which underscores only divide. -/
structure IsTidy (text : String) : Prop where
  word : IsWord text
  ne_empty : text ≠ ""
  front : text.toList.head? ≠ some '_'
  back : text.toList.getLast? ≠ some '_'
  single : ¬ ['_', '_'] <:+: text.toList

/-- Underscores that do not divide would leave an empty part. -/
theorem isTidy_of_words {text : String} (hword : IsWord text) (hne : ws ≠ []) (h : AreWords ws)
    (htext : text.toList = ['_'].intercalate ws) : IsTidy text := by
  have hparts := splitWhere_words hne h
  rw [← htext] at hparts
  have hempty : [] ∉ Text.splitWhere (fun c => !Text.isAlphanumeric c) text.toList := by
    rw [hparts]
    intro hnil
    exact (h [] hnil).1 rfl
  have hline : (!Text.isAlphanumeric '_') = true := by simp [Text.isAlphanumeric_underscore]
  have hcut := Text.splitWhere_append_cons (p := fun c => !Text.isAlphanumeric c) hline
  -- in each case the underscore is a cut with nothing on one side of it
  refine ⟨hword, ?_, ?_, ?_, ?_⟩
  · rintro rfl
    exact hempty (by simp [Text.splitWhere])
  · intro hfront
    obtain ⟨rest, hrest⟩ := List.head?_eq_some_iff.mp hfront
    apply hempty
    rw [hrest, ← List.nil_append ('_' :: rest), hcut]
    exact List.mem_append_left _ (by simp [Text.splitWhere])
  · intro hback
    obtain ⟨front, hfront⟩ := List.getLast?_eq_some_iff.mp hback
    apply hempty
    rw [hfront, hcut]
    exact List.mem_append_right _ (by simp [Text.splitWhere])
  · rintro ⟨front, back, hdouble⟩
    apply hempty
    rw [← hdouble, List.append_assoc]
    show [] ∈ Text.splitWhere _ (front ++ '_' :: ([] ++ '_' :: back))
    rw [hcut, hcut]
    exact List.mem_append_right _ (List.mem_append_left _ (by simp [Text.splitWhere]))

/-- **What a type name comes to is tidy**, whatever the name is. -/
theorem isTidy_mangle (name : String) : IsTidy (mangle name) := by
  obtain ⟨ws, hne, hws, htext⟩ := exists_words name
  exact isTidy_of_words (isWord_mangle name) hne hws htext

/-- **A second time changes nothing.** -/
theorem mangle_mangle (name : String) : mangle (mangle name) = mangle name := by
  obtain ⟨ws, hne, hws, htext⟩ := exists_words name
  exact mangle_of_words hne hws htext

end Code

end Registrar
