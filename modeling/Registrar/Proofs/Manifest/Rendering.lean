import Mathlib.Data.List.TakeWhile
import Registrar.Manifest.Reader
import Registrar.Proofs.Json.Typed

/-!
# Manifests are read back

A manifest can be written in many ways: the members of every object in any order, with or without
those that have their default, strings escaped in any way, and white space anywhere between tokens.
The reader takes every such text back to the manifest that was written; nothing is lost, moved or
trimmed.

* `Renders` : a text is one of the ways to write a manifest.
* `carries_location` and its siblings : the members of the readers are the fields of the format.
* `exists_renders`, `Renders.exists_isText` : every manifest has renderings, and they are JSON.
* `ofJson_of_renders` : the reader undoes every rendering.
-/

namespace Registrar.Manifest

open Registrar.Json Registrar.Json.Spelling

/-! ## §1 — the format -/

/-- How an accessibility is written. -/
def accessibilityName : Accessibility → String
  | .«public» => "public"
  | .«internal» => "internal"
  | .«protected» => "protected"
  | .protectedInternal => "protected_internal"
  | .privateProtected => "private_protected"
  | .«private» => "private"

/-- The fields of a location, all of them required. -/
def locationFields : List (FieldFormat Location) :=
  [{ name := "file", get := (·.file), spelling := Text },
    { name := "line", get := (·.line), spelling := Whole },
    { name := "column", get := (·.column), spelling := Whole }]

/-- The fields of an attribute. -/
def attributeFields : List (FieldFormat AttributeEntry) :=
  [{ name := "name", get := (·.name), spelling := Text },
    { name := "arguments", get := (·.arguments), spelling := ListOf Text, default? := some [] }]

/-- The fields of a constructor, none of them required. -/
def constructorFields : List (FieldFormat ConstructorEntry) :=
  [{ name := "accessibility", get := (·.accessibility)
     spelling := fun accessibility => Text (accessibilityName accessibility)
     default? := some .«public» },
    { name := "is_static", get := (·.isStatic), spelling := Flag, default? := some false },
    { name := "parameters", get := (·.parameters), spelling := ListOf Text, default? := some [] },
    { name := "attributes", get := (·.attributes), spelling := ListOf (Object attributeFields)
      default? := some [] },
    { name := "location", get := (·.location), spelling := Nullable (Object locationFields)
      default? := some none }]

/-- The fields of a class, of which only the name is required. -/
def classFields : List (FieldFormat ClassEntry) :=
  [{ name := "name", get := (·.name), spelling := Text },
    { name := "location", get := (·.location), spelling := Nullable (Object locationFields)
      default? := some none },
    { name := "attributes", get := (·.attributes), spelling := ListOf (Object attributeFields)
      default? := some [] },
    { name := "constructors", get := (·.constructors), spelling := ListOf (Object constructorFields)
      default? := some [] }]

/-- The only field of a manifest. -/
def fields : List (FieldFormat Manifest) :=
  [{ name := "classes", get := (·.classes), spelling := ListOf (Object classFields)
     default? := some [] }]

/-- A text is one of the ways to write a manifest. -/
def Renders (manifest : Manifest) (text : String) : Prop :=
  ∃ rest, Object fields manifest text.toList rest ∧ ∀ c ∈ rest, isJsonBlank c = true

/-! ## §2 — the readers have the fields of the format -/

variable {σ : Type}

/-- A member that reads its value and stores it reads its field. -/
theorem readsField {members : List (Member σ)} {fields : List (FieldFormat σ)}
    {field : FieldFormat σ} {isRequired : Bool} {reader : Reader field.α} {set : σ → field.α → σ}
    (hfind : members.find? (·.name = field.name) = some
      ⟨field.name, isRequired, fun input => (reader input).mapValue fun a s => set s a⟩)
    (hreader : Follows reader field.spelling)
    (hset : ∀ a, Sets fields field a fun s => set s a) : ReadsField members fields field := by
  refine ⟨_, hfind, fun a input rest hspelled hstop => ⟨fun s => set s a, ?_, hset a⟩⟩
  rw [Answer.view_mapValue, hreader hspelled hstop]
  rfl

/-- The members of the reader of locations are the fields of a location. -/
theorem carries_location : Carries locationMembers locationFields default where
  distinct := by decide
  reads := by
    simp only [locationFields, List.forall_mem_cons]
    refine ⟨readsField rfl follows_text ?_, readsField rfl follows_whole ?_,
      readsField rfl follows_whole ?_, fun _ h => nomatch h⟩
    -- each member sets its own field and no other
    all_goals exact fun a => ⟨fun _ => rfl, by simp⟩
  isRequired := by simp [locationMembers, locationFields, required]
  initial := by simp [locationFields]
  ext := by
    rintro ⟨file, line, column⟩ ⟨file', line', column'⟩ h
    simpa [locationFields] using h

theorem follows_location : Follows readLocation (Object locationFields) :=
  follows_object "Location" carries_location

theorem follows_accessibility :
    Follows (readVariant accessibilityNames) fun a => Text (accessibilityName a) := by
  refine follows_variant fun accessibility => ?_
  cases accessibility <;> rfl

/-- The members of the reader of attributes are the fields of an attribute. -/
theorem carries_attribute : Carries attributeMembers attributeFields { name := "" } where
  distinct := by decide
  reads := by
    have hlist := follows_listOf follows_text starts_text (by decide) (by decide)
    simp only [attributeFields, List.forall_mem_cons]
    refine ⟨readsField rfl follows_text ?_, readsField rfl hlist ?_, fun _ h => nomatch h⟩
    all_goals exact fun a => ⟨fun _ => rfl, by simp⟩
  isRequired := by simp [attributeMembers, attributeFields, required, optional]
  initial := by simp [attributeFields]
  ext := by
    rintro ⟨name, arguments⟩ ⟨name', arguments'⟩ h
    simpa [attributeFields] using h

theorem follows_attribute : Follows readAttribute (Object attributeFields) :=
  follows_object "AttributeEntry" carries_attribute

theorem follows_attributes : Follows (readList readAttribute) (ListOf (Object attributeFields)) :=
  follows_listOf follows_attribute starts_object (by decide) (by decide)

/-- A location that may be missing is read as it is written: no object starts like the word
`null`. -/
theorem follows_optionalLocation :
    Follows (readOptional readLocation) (Nullable (Object locationFields)) :=
  follows_nullable follows_location starts_object (by decide) (by decide)

/-- The members of the reader of constructors are the fields of a constructor. -/
theorem carries_constructor : Carries constructorMembers constructorFields {} where
  distinct := by decide
  reads := by
    have hlist := follows_listOf follows_text starts_text (by decide) (by decide)
    simp only [constructorFields, List.forall_mem_cons]
    refine ⟨readsField rfl follows_accessibility ?_, readsField rfl follows_flag ?_,
      readsField rfl hlist ?_, readsField rfl follows_attributes ?_,
      readsField rfl follows_optionalLocation ?_, fun _ h => nomatch h⟩
    all_goals exact fun a => ⟨fun _ => rfl, by simp⟩
  isRequired := by simp [constructorMembers, constructorFields, optional]
  initial := by simp [constructorFields]
  ext := by
    rintro ⟨_, _, _, _, _⟩ ⟨_, _, _, _, _⟩ h
    simpa [constructorFields] using h

theorem follows_constructor : Follows readConstructor (Object constructorFields) :=
  follows_object "ConstructorEntry" carries_constructor

/-- The members of the reader of classes are the fields of a class. -/
theorem carries_class : Carries classMembers classFields { name := "" } where
  distinct := by decide
  reads := by
    have hconstructors := follows_listOf follows_constructor starts_object (by decide) (by decide)
    simp only [classFields, List.forall_mem_cons]
    refine ⟨readsField rfl follows_text ?_, readsField rfl follows_optionalLocation ?_,
      readsField rfl follows_attributes ?_, readsField rfl hconstructors ?_, fun _ h => nomatch h⟩
    all_goals exact fun a => ⟨fun _ => rfl, by simp⟩
  isRequired := by simp [classMembers, classFields, required, optional]
  initial := by simp [classFields]
  ext := by
    rintro ⟨_, _, _, _⟩ ⟨_, _, _, _⟩ h
    simpa [classFields] using h

theorem follows_class : Follows readClass (Object classFields) :=
  follows_object "ClassEntry" carries_class

/-- The only member of the reader of manifests is the list of classes. -/
theorem carries_manifest : Carries members fields {} where
  distinct := by decide
  reads := by
    have hclasses := follows_listOf follows_class starts_object (by decide) (by decide)
    simp only [fields, List.forall_mem_cons]
    refine ⟨readsField rfl hclasses ?_, fun _ h => nomatch h⟩
    exact fun a => ⟨fun _ => rfl, by simp⟩
  isRequired := by simp [members, optional]
  initial := by simp [fields]
  ext := by
    rintro ⟨_⟩ ⟨_⟩ h
    simpa [fields] using h

theorem follows_manifest : Follows (readStructure "Manifest" members {}) (Object fields) :=
  follows_object "Manifest" carries_manifest

/-! ## §3 — whole texts -/

variable {manifest : Manifest} {text : String}

theorem isFormat_attributes : IsFormat (ListOf (Object attributeFields)) := by
  refine isFormat_listOf (isFormat_object ?_)
  simp only [attributeFields, List.forall_mem_cons]
  exact ⟨isFormat_text, isFormat_listOf isFormat_text, fun _ h => nomatch h⟩

theorem isFormat_location : IsFormat (Nullable (Object locationFields)) := by
  refine isFormat_nullable (isFormat_object ?_)
  simp only [locationFields, List.forall_mem_cons]
  exact ⟨isFormat_text, isFormat_whole, isFormat_whole, fun _ h => nomatch h⟩

/-- Lists of constructors can be written. -/
theorem isFormat_constructors : IsFormat (ListOf (Object constructorFields)) := by
  -- every accessibility is written as a word, and only those words need a format
  have haccessibility : IsFormat fun a => Text (accessibilityName a) :=
    ⟨fun _ _ _ h => isFormat_text.isJson h, fun a => isFormat_text.covers (accessibilityName a)⟩
  refine isFormat_listOf (isFormat_object ?_)
  simp only [constructorFields, List.forall_mem_cons]
  exact ⟨haccessibility, isFormat_flag, isFormat_listOf isFormat_text, isFormat_attributes,
    isFormat_location, fun _ h => nomatch h⟩

/-- Manifests can be written, and what is written is JSON. -/
theorem isFormat_manifest : IsFormat (Object fields) := by
  refine isFormat_object ?_
  simp only [fields, List.forall_mem_cons]
  refine ⟨isFormat_listOf (isFormat_object ?_), fun _ h => nomatch h⟩
  simp only [classFields, List.forall_mem_cons]
  exact ⟨isFormat_text, isFormat_location, isFormat_attributes, isFormat_constructors,
    fun _ h => nomatch h⟩

theorem exists_renders (manifest : Manifest) : ∃ text, manifest.Renders text := by
  obtain ⟨input, hobject⟩ := isFormat_manifest.covers manifest []
  refine ⟨String.ofList input, [], ?_, fun _ h => nomatch h⟩
  rwa [String.toList_ofList]

theorem Renders.exists_isText (h : manifest.Renders text) : ∃ v : Value, v.IsText text := by
  obtain ⟨rest, hobject, hblank⟩ := h
  obtain ⟨v, hv⟩ := isFormat_manifest.isJson hobject
  exact ⟨v, rest, hv, hblank⟩

/-- **The reader undoes every rendering.** -/
theorem ofJson_of_renders (h : manifest.Renders text) : ofJson text = .ok manifest := by
  obtain ⟨rest, hobject, hblank⟩ := h
  have hread := follows_manifest hobject (stops_of_blanks hblank)
  obtain ⟨hlt, hread⟩ := Answer.eq_ok_of_view hread
  -- nothing but white space is left
  have hend : nextToken rest = none := nextToken_eq_none (List.dropWhile_eq_nil_iff.mpr hblank)
  rw [ofJson, readAll, hread]
  simp only [hend]

/-- With the members in another order, a key with an escape sequence in it, and `null`. -/
theorem ofJson_of_renders_escaped :
    let manifest : Manifest := ⟨[{ name := "A" }]⟩
    let text := "\x7b\"classes\": [\x7b\"location\":null,\"n\\u0061me\":\"A\"\x7d]\x7d\n"
    manifest.Renders text ∧ ofJson text = .ok manifest := by
  intro manifest text
  have hkey : ∀ rest, SpellsChars "name".toList ("n\\u0061me\"".toList ++ rest) rest := by
    intro rest
    have hn : SpellsChar 'n' ['n'] := .plain (by decide) (by decide) (by decide)
    have hdigits : FourDigits ['0', '0', '6', '1'] (((0 * 16 + 0) * 16 + 6) * 16 + 1) :=
      .mk rfl rfl rfl rfl
    have ha : SpellsChar 'a' ['\\', 'u', '0', '0', '6', '1'] := .codePoint hdigits
    have hme := spellsChars_escape ['m', 'e'] rest
    simpa [escapeChar, isControl] using SpellsChars.char hn (.char ha hme)
  have hclass : ∀ rest, Object classFields manifest.classes[0]
      ("\x7b\"location\":null,\"".toList ++
        ("n\\u0061me\"".toList ++ (":\"A\"\x7d".toList ++ rest))) rest := by
    intro rest
    have hperm : ([classFields[1], classFields[0]] ++ [classFields[2], classFields[3]]).Perm
        classFields := .swap classFields[0] classFields[1] _
    have homitted : ∀ field ∈ [classFields[2], classFields[3]],
        field.MayOmit manifest.classes[0] := by
      simp [classFields, FieldFormat.MayOmit, manifest]
    exact .entries hperm homitted .here
      (.more (.mk .here (spellsChars_escape "location".toList _) .here (.null .here)) .here
        (.last (.mk .here (hkey _) .here (.mk .here (spellsChars_escape "A".toList _))) .here))
  have hrenders : manifest.Renders text := by
    have hperm : ([fields[0]] ++ []).Perm fields := .refl _
    have hblank : isJsonBlank ' ' = true := rfl
    have htext : text.toList = "\x7b\"classes\": [".toList ++ ("\x7b\"location\":null,\"".toList ++
        ("n\\u0061me\"".toList ++ (":\"A\"\x7d".toList ++ [']', '\x7d', '\n']))) := by simp [text]
    refine ⟨['\n'], htext ▸ .entries hperm (fun _ h => absurd h List.not_mem_nil) .here
      (.last ?_ .here), by simp [isJsonBlank]⟩
    exact .mk .here (spellsChars_escape "classes".toList _) .here
      (.items (.blank hblank .here) (.last (hclass _) .here))
  exact ⟨hrenders, ofJson_of_renders hrenders⟩

end Registrar.Manifest
