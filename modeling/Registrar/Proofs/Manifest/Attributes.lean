import Registrar.Manifest.Lowering

/-!
# Attributes as they are written

The name of an attribute can be written in several ways: with a qualifier in front, with or without
the ending `Attribute`, and with blanks around it. `Denotes` is the grammar of these ways, said
without looking at how a name is taken apart, and an attribute counts under a plain name exactly when
its own name denotes it. Likewise `NamesType` says which type an argument names, in `typeof(...)` or
bare.

* `normalizeAttributeName_eq_iff` : taking a name apart gives the plain name that it denotes.
* `lifetime?_eq_some_iff`, `isScopeRoot_iff`, `isMarked_lower_iff` : where attributes count.
* `serviceType?_eq_some_iff` : the service type is the type that the first argument names.
-/

namespace Registrar.Manifest

/-! ## §1 — the grammar -/

/-- The ending that the name of an attribute may have. -/
def attributeEnding : String := "Attribute"

/-- `name` is a way to write `plain`: blanks aside, a qualifier that is empty or ends in a
separator, then `plain`, then the ending or nothing. -/
def Denotes (name plain : String) : Prop :=
  ∃ qualifier : List Char, (∀ c ∈ qualifier.getLast?, TypeName.isSeparator c = true) ∧
    (Text.trimChars name.toList = qualifier ++ plain.toList ∨
      Text.trimChars name.toList = qualifier ++ (plain.toList ++ attributeEnding.toList))

/-- What comes before `ending` in a text is a qualifier. -/
def qualifies (ending cs : List Char) : Bool :=
  (Text.dropFinish? ending cs).any fun qualifier => qualifier.getLast?.all TypeName.isSeparator

/-- A text qualifies if it is the ending behind an empty qualifier or one that ends in a
separator. -/
theorem qualifies_iff {ending cs : List Char} :
    qualifies ending cs = true ↔ ∃ qualifier : List Char,
      (∀ c ∈ qualifier.getLast?, TypeName.isSeparator c = true) ∧ cs = qualifier ++ ending := by
  rw [qualifies, Option.any_eq_true]
  constructor
  · rintro ⟨qualifier, hdrop, hlast⟩
    exact ⟨qualifier, by simpa [Option.all_eq_true] using hlast,
      Text.dropFinish?_eq_some_iff.mp hdrop⟩
  · rintro ⟨qualifier, hlast, hcs⟩
    exact ⟨qualifier, Text.dropFinish?_eq_some_iff.mpr hcs,
      by simpa [Option.all_eq_true] using hlast⟩

instance (name plain : String) : Decidable (Denotes name plain) :=
  decidable_of_iff
    (qualifies plain.toList (Text.trimChars name.toList) = true ∨
      qualifies (plain.toList ++ attributeEnding.toList) (Text.trimChars name.toList) = true) <| by
    rw [qualifies_iff, qualifies_iff, Denotes, ← exists_or]
    simp only [and_or_left]

/-- A name that can be looked for: a single segment without blanks around it that does not have the
ending itself. -/
structure IsPlainName (plain : String) : Prop where
  ne_nil : plain.toList ≠ []
  no_blanks : Text.trimChars plain.toList = plain.toList
  not_separator : ∀ c ∈ plain.toList, TypeName.isSeparator c = false
  no_ending : Text.dropFinish? attributeEnding.toList plain.toList = none

theorem not_separator_of_any {cs : List Char} (h : cs.any TypeName.isSeparator = false) :
    ∀ c ∈ cs, TypeName.isSeparator c = false :=
  fun c hc => Bool.eq_false_iff.mpr (List.any_eq_false.mp h c hc)

theorem isPlainName_markerName (lifetime : Lifetime) : IsPlainName lifetime.markerName := by
  cases lifetime <;> exact ⟨by decide, by decide, not_separator_of_any (by decide), by decide⟩

theorem isPlainName_scopeRootTag : IsPlainName scopeRootTag :=
  ⟨by decide, by decide, not_separator_of_any (by decide), by decide⟩

/-- The two markers of constructors can be looked for. -/
theorem isPlainName_of_mem_constructorMarkers {plain : String} (h : plain ∈ constructorMarkers) :
    IsPlainName plain := by
  simp only [constructorMarkers, List.mem_cons, List.not_mem_nil, or_false] at h
  rcases h with rfl | rfl <;>
    exact ⟨by decide, by decide, not_separator_of_any (by decide), by decide⟩

/-! ## §2 — taking a name apart -/

/-- The last segment is the plain name, or the plain name with the ending. -/
theorem normalizeAttributeName_eq_iff_afterLast {name plain : String} (h : IsPlainName plain) :
    normalizeAttributeName name = plain ↔
      Text.afterLast TypeName.isSeparator (Text.trimChars name.toList) = plain.toList ∨
        Text.afterLast TypeName.isSeparator (Text.trimChars name.toList) =
          plain.toList ++ attributeEnding.toList := by
  unfold normalizeAttributeName
  rw [← String.toList_inj, Text.toList_trim, String.toList_ofList]
  generalize Text.afterLast TypeName.isSeparator (Text.trimChars name.toList) = simple
  constructor
  · intro heq
    split at heq
    · next c rest hdrop =>
      rw [← heq]
      exact Or.inr (Text.dropFinish?_eq_some_iff.mp hdrop)
    · exact Or.inl heq
  · rintro (rfl | rfl)
    · have hnone := h.no_ending
      unfold attributeEnding at hnone
      -- the plain name has no ending of its own that could be dropped
      rw [hnone]
    · -- something is left in front of the ending, as the plain name is not empty
      obtain ⟨c, rest, hcons⟩ := List.exists_cons_of_ne_nil h.ne_nil
      have hsome : Text.dropFinish? "Attribute".toList
          (plain.toList ++ attributeEnding.toList) = some (c :: rest) := by
        rw [Text.dropFinish?_eq_some_iff, hcons]
        rfl
      rw [hsome, hcons]

/-- **A name counts under the plain name that it denotes.** -/
theorem normalizeAttributeName_eq_iff {name plain : String} (h : IsPlainName plain) :
    normalizeAttributeName name = plain ↔ Denotes name plain := by
  have hending : ∀ c ∈ attributeEnding.toList, TypeName.isSeparator c = false :=
    not_separator_of_any (by decide)
  have hboth : ∀ c ∈ plain.toList ++ attributeEnding.toList,
      TypeName.isSeparator c = false := by
    intro c hc
    rcases List.mem_append.mp hc with hc | hc
    · exact h.not_separator c hc
    · exact hending c hc
  rw [normalizeAttributeName_eq_iff_afterLast h, Text.afterLast_eq_iff, Text.afterLast_eq_iff,
    and_iff_right h.not_separator, and_iff_right hboth, ← exists_or, Denotes]
  simp only [and_or_left]

/-- A name denotes one plain name at most. -/
theorem Denotes.unique {name plain plain' : String} (h : Denotes name plain)
    (h' : Denotes name plain') (hplain : IsPlainName plain) (hplain' : IsPlainName plain') :
    plain = plain' := by
  calc
    plain = normalizeAttributeName name := ((normalizeAttributeName_eq_iff hplain).mpr h).symm
    _ = plain' := (normalizeAttributeName_eq_iff hplain').mpr h'

theorem denotes_self {plain : String} (h : IsPlainName plain) : Denotes plain plain :=
  ⟨[], by simp, Or.inl (by rw [h.no_blanks, List.nil_append])⟩

/-! ## §3 — where attributes count -/

theorem AttributeEntry.lifetime?_eq_some_iff {attr : AttributeEntry} {lifetime : Lifetime} :
    attr.lifetime? = some lifetime ↔ Denotes attr.name lifetime.markerName := by
  rw [lifetime?, Lifetime.ofMarkerName?_eq_some_iff, eq_comm]
  exact normalizeAttributeName_eq_iff (isPlainName_markerName lifetime)

theorem AttributeEntry.lifetime?_eq_none_iff {attr : AttributeEntry} :
    attr.lifetime? = none ↔ ∀ lifetime : Lifetime, ¬ Denotes attr.name lifetime.markerName := by
  rw [Option.eq_none_iff_forall_ne_some]
  exact forall_congr' fun lifetime => not_congr lifetime?_eq_some_iff

theorem ClassEntry.isScopeRoot_iff {entry : ClassEntry} :
    entry.isScopeRoot = true ↔ ∃ attr ∈ entry.attributes, Denotes attr.name scopeRootTag := by
  simp only [isScopeRoot, List.any_eq_true, decide_eq_true_eq, AttributeEntry.simpleName,
    normalizeAttributeName_eq_iff isPlainName_scopeRootTag]

/-- A constructor is marked exactly if one of its attributes denotes one of the two markers. -/
theorem ConstructorEntry.isMarked_lower_iff {entry : ConstructorEntry} :
    entry.lower.isMarked = true ↔
      -- what is looked up is the plain name of the attribute, which it denotes itself
      ∃ attr ∈ entry.attributes, ∃ marker ∈ constructorMarkers, Denotes attr.name marker := by
  simp only [lower, List.any_eq_true, decide_eq_true_eq]
  refine exists_congr fun attr => and_congr_right fun _ => ?_
  constructor
  · intro hmem
    exact ⟨_, hmem, (normalizeAttributeName_eq_iff
      (isPlainName_of_mem_constructorMarkers hmem)).mp rfl⟩
  · rintro ⟨marker, hmarker, hdenotes⟩
    have hname := (normalizeAttributeName_eq_iff
      (isPlainName_of_mem_constructorMarkers hmarker)).mpr hdenotes
    rw [AttributeEntry.simpleName, hname]
    exact hmarker

/-! ## §4 — the type that an argument names -/

namespace AttributeEntry

/-- The argument names the type `text`: it is `typeof(...)` around it, or it has no such form and is
the type itself. Blanks around the argument and around the type do not count. -/
inductive NamesType (argument : String) : String → Prop where
  | wrapped {inner : String} (shape : Text.trim argument = "typeof(" ++ inner ++ ")") :
      NamesType argument (Text.trim inner)
  | bare (shape : ∀ inner : String, Text.trim argument ≠ "typeof(" ++ inner ++ ")") :
      NamesType argument (Text.trim argument)

/-- The characters of a wrapped type: the word, what is inside, the bracket. -/
theorem toList_typeOf (inner : String) :
    ("typeof(" ++ inner ++ ")").toList = "typeof(".toList ++ (inner.toList ++ [')']) := by
  rw [String.toList_append, String.toList_append, List.append_assoc]
  rfl

/-- What stands inside of `typeof(...)`, if the text has this form. -/
def insideTypeOf? (cs : List Char) : Option (List Char) :=
  (Text.dropStart? "typeof(".toList cs).bind (Text.dropFinish? [')'])

/-- What is inside is found exactly if the text has the form. -/
theorem insideTypeOf?_eq_some_iff {cs inner : List Char} :
    insideTypeOf? cs = some inner ↔ cs = "typeof(".toList ++ (inner ++ [')']) := by
  rw [insideTypeOf?, Option.bind_eq_some_iff]
  constructor
  · rintro ⟨rest, hstart, hfinish⟩
    rw [Text.dropStart?_eq_some_iff.mp hstart, Text.dropFinish?_eq_some_iff.mp hfinish]
  · intro hcs
    exact ⟨_, Text.dropStart?_eq_some_iff.mpr hcs, Text.dropFinish?_eq_some_iff.mpr rfl⟩

/-- The same for an argument, whose blanks at both ends do not count. -/
theorem insideTypeOf?_trim_eq_some_iff {argument inner : String} :
    insideTypeOf? (Text.trimChars argument.toList) = some inner.toList ↔
      Text.trim argument = "typeof(" ++ inner ++ ")" := by
  rw [insideTypeOf?_eq_some_iff, ← String.toList_inj, toList_typeOf, Text.toList_trim]

/-- If it has none of the forms `typeof(...)`, nothing is inside. -/
theorem insideTypeOf?_trim_eq_none {argument : String}
    (shape : ∀ inner : String, Text.trim argument ≠ "typeof(" ++ inner ++ ")") :
    insideTypeOf? (Text.trimChars argument.toList) = none := by
  rw [Option.eq_none_iff_forall_ne_some]
  intro inner hsome
  have hinner : (String.ofList inner).toList = inner := String.toList_ofList
  rw [← hinner] at hsome
  exact shape _ (insideTypeOf?_trim_eq_some_iff.mp hsome)

theorem unwrapTypeOf_eq (cs : List Char) : unwrapTypeOf cs = (insideTypeOf? cs).getD cs := rfl

/-- The type that an argument names, computed. -/
def typeText (argument : String) : String :=
  Text.trim (String.ofList (unwrapTypeOf (Text.trimChars argument.toList)))

/-- An argument names exactly one type, and it can be computed. -/
theorem namesType_iff {argument text : String} :
    NamesType argument text ↔ text = typeText argument := by
  have htext : ∀ inner : String, Text.trim argument = "typeof(" ++ inner ++ ")" →
      typeText argument = Text.trim inner := by
    intro inner hshape
    rw [typeText, unwrapTypeOf_eq, insideTypeOf?_trim_eq_some_iff.mpr hshape, Option.getD_some,
      String.ofList_toList]
  have hbare : (∀ inner : String, Text.trim argument ≠ "typeof(" ++ inner ++ ")") →
      typeText argument = Text.trim argument := by
    intro hshape
    rw [typeText, unwrapTypeOf_eq, insideTypeOf?_trim_eq_none hshape, Option.getD_none,
      ← Text.toList_trim, String.ofList_toList, Text.trim_trim]
  constructor
  · intro h
    cases h with
    | wrapped shape => exact (htext _ shape).symm
    | bare shape => exact (hbare shape).symm
  · rintro rfl
    -- the two rules exclude each other by the form of the argument
    by_cases hshape : ∃ inner : String, Text.trim argument = "typeof(" ++ inner ++ ")"
    · obtain ⟨inner, hshape⟩ := hshape
      rw [htext inner hshape]
      exact .wrapped hshape
    · have hshape' := not_exists.mp hshape
      rw [hbare hshape']
      exact .bare hshape'

/-- The service type is what the first argument names, unless that is nothing. -/
theorem serviceType?_eq (attr : AttributeEntry) :
    attr.serviceType? = attr.arguments.head?.bind fun argument =>
      if typeText argument = "" then none else some ⟨typeText argument⟩ := by
  unfold serviceType?
  cases attr.arguments with
  | nil => rfl
  | cons first more =>
    rw [List.head?_cons, Option.bind_some, typeText]
    simp only [TypeName.ofString, TypeName.isEmpty, String.isEmpty_iff]

/-- The service type is the type that the first argument names. -/
theorem serviceType?_eq_some_iff {attr : AttributeEntry} {serviceType : TypeName} :
    attr.serviceType? = some serviceType ↔
      ∃ argument ∈ attr.arguments.head?, NamesType argument serviceType.text ∧
        serviceType.text ≠ "" := by
  rw [serviceType?_eq, Option.bind_eq_some_iff]
  refine exists_congr fun argument => and_congr_right fun _ => ?_
  rw [namesType_iff]
  by_cases hempty : typeText argument = ""
  · simp [hempty]
  · rw [if_neg hempty]
    constructor
    · intro h
      obtain rfl := Option.some.inj h
      exact ⟨rfl, hempty⟩
    · rintro ⟨htext, -⟩
      rw [← htext]

/-- There is no service type if there is no argument or the first one names nothing. -/
theorem serviceType?_eq_none_iff {attr : AttributeEntry} :
    attr.serviceType? = none ↔ ∀ argument ∈ attr.arguments.head?, NamesType argument "" := by
  rw [serviceType?_eq, Option.bind_eq_none_iff]
  refine forall_congr' fun argument => forall_congr' fun _ => ?_
  rw [namesType_iff, eq_comm (a := "")]
  by_cases hempty : typeText argument = ""
  · simp [hempty]
  · simp [hempty]

end AttributeEntry

end Registrar.Manifest
