import Registrar.Proofs.Json.Numbers

/-!
# How typed values are written

Values of a known type are written in many ways: white space may stand before every token, the
characters of a string may be escaped, the members of an object may come in any order, and one that
has its default may be left out. A spelling of a type is the relation between its values and the
inputs that have them at the front, with what comes after the value.

* `Spelling` : a value at the front of an input, and the rest of the input.
* `Spelling.Object` : objects whose members are the fields of a structure.
* `isFormat_object` : every structure can be written so, and what is written is JSON.
-/

namespace Registrar.Json

variable {α σ : Type}

/-- How the values of a type are written. -/
abbrev Spelling (α : Type) := α → List Char → List Char → Prop

namespace Spelling

/-! ## §1 — single values -/

/-- A string, with any of its characters escaped. -/
inductive Text (text : String) : List Char → List Char → Prop where
  | mk {input chars rest : List Char} (hquote : Token '"' input chars)
      (hchars : SpellsChars text.toList chars rest) : Text text input rest

/-- The words for the two flags. -/
inductive Flag : Bool → List Char → List Char → Prop where
  | true {input rest : List Char} (h : Token 't' input ('r' :: 'u' :: 'e' :: rest)) :
      Flag true input rest
  | false {input rest : List Char} (h : Token 'f' input ('a' :: 'l' :: 's' :: 'e' :: rest)) :
      Flag false input rest

/-- A whole number is written with its decimal digits. JSON has no needless zeros and no plus sign,
and with a point or an exponent it would be another kind of number. -/
inductive Whole (n : UInt32) : List Char → List Char → Prop where
  | mk {d : Char} {digits input rest : List Char}
      (hdigits : (toString n.toNat).toList = d :: digits) (h : Token d input (digits ++ rest)) :
      Whole n input rest

/-- The word for a missing value, or the value itself. -/
inductive Nullable (item : Spelling α) : Option α → List Char → List Char → Prop where
  | null {input rest : List Char} (h : Token 'n' input ('u' :: 'l' :: 'l' :: rest)) :
      Nullable item none input rest
  | value {a : α} {input rest : List Char} (h : item a input rest) :
      Nullable item (some a) input rest

/-! ## §2 — lists -/

/-- At least one item, with commas between them, and the bracket that closes the list. -/
inductive Items (item : Spelling α) : List α → List Char → List Char → Prop where
  | last {a : α} {input after rest : List Char} (hitem : item a input after)
      (hclose : Token ']' after rest) : Items item [a] input rest
  | more {a : α} {items : List α} {input after next rest : List Char} (hitem : item a input after)
      (hcomma : Token ',' after next) (hitems : Items item items next rest) :
      Items item (a :: items) input rest

/-- Brackets around items, which may be none. -/
inductive ListOf (item : Spelling α) : List α → List Char → List Char → Prop where
  | empty {input next rest : List Char} (hopen : Token '[' input next)
      (hclose : Token ']' next rest) : ListOf item [] input rest
  | items {items : List α} {input next rest : List Char} (hopen : Token '[' input next)
      (hitems : Items item items next rest) : ListOf item items input rest

end Spelling

/-! ## §3 — objects -/

/-- A field of a structure: its name in the text, and how its values are written. One that has a
default may be left out when it has that value. -/
structure FieldFormat (σ : Type) where
  {α : Type}
  name : String
  get : σ → α
  spelling : Spelling α
  default? : Option α := none

/-- The field has its default. -/
def FieldFormat.MayOmit (field : FieldFormat σ) (s : σ) : Prop :=
  field.default? = some (field.get s)

namespace Spelling

/-- The name of a field and the value that a structure has there, with a colon between them. The
name is a string like any other. -/
inductive Entry (field : FieldFormat σ) (s : σ) : List Char → List Char → Prop where
  | mk {input name colon value rest : List Char} (hquote : Token '"' input name)
      (hname : SpellsChars field.name.toList name colon) (hcolon : Token ':' colon value)
      (hvalue : field.spelling (field.get s) value rest) : Entry field s input rest

/-- At least one field, with commas between them, and the brace that closes the object. -/
inductive Entries (s : σ) : List (FieldFormat σ) → List Char → List Char → Prop where
  | last {field : FieldFormat σ} {input after rest : List Char} (hentry : Entry field s input after)
      (hclose : Token '\x7d' after rest) : Entries s [field] input rest
  | more {field : FieldFormat σ} {fields : List (FieldFormat σ)} {input after next rest : List Char}
      (hentry : Entry field s input after) (hcomma : Token ',' after next)
      (hentries : Entries s fields next rest) : Entries s (field :: fields) input rest

/-- A structure is an object with its fields, in any order. -/
inductive Object (fields : List (FieldFormat σ)) (s : σ) : List Char → List Char → Prop where
  | empty {input next rest : List Char} (homitted : ∀ field ∈ fields, field.MayOmit s)
      (hopen : Token '\x7b' input next) (hclose : Token '\x7d' next rest) :
      Object fields s input rest
  | entries {written omitted : List (FieldFormat σ)} {input next rest : List Char}
      (hperm : (written ++ omitted).Perm fields) (homitted : ∀ field ∈ omitted, field.MayOmit s)
      (hopen : Token '\x7b' input next) (hentries : Entries s written next rest) :
      Object fields s input rest

/-! ## §4 — formats -/

/-- Every value can be written, and whatever is written is JSON. -/
structure IsFormat (spelling : Spelling α) : Prop where
  isJson : ∀ ⦃a : α⦄ ⦃input rest : List Char⦄, spelling a input rest → ∃ v, Spells v input rest
  covers : ∀ (a : α) (rest : List Char), ∃ input, spelling a input rest

variable {input next rest : List Char} {item : Spelling α} {fields : List (FieldFormat σ)}

/-- What is read from a token on may have white space in front of the token. -/
theorem spells_of_token {c : Char} {v : Value} (h : Token c input next)
    (hv : Spells v (c :: next) rest) : Spells v input rest := by
  induction h with
  | here => exact hv
  | blank hb _ ih => exact .blank hb (ih hv)

/-- Every string can be written: the way reports escape it is one way. -/
theorem isFormat_text : IsFormat Text where
  isJson := by
    rintro text input rest ⟨hquote, hchars⟩
    exact ⟨_, spells_of_token hquote (.string hchars)⟩
  covers text rest := ⟨_, .mk .here (spellsChars_escape text.toList rest)⟩

/-- The two flags are words of JSON. -/
theorem isFormat_flag : IsFormat Flag where
  isJson := by
    intro value input rest h
    cases h with
    | true h => exact ⟨_, spells_of_token h .true⟩
    | false h => exact ⟨_, spells_of_token h .false⟩
  covers
    | true, _ => ⟨_, .true .here⟩
    | false, _ => ⟨_, .false .here⟩

/-- The decimal digits of a whole number are a JSON number. -/
theorem isFormat_whole : IsFormat Whole where
  isJson := by
    rintro n input rest ⟨hdigits, h⟩
    -- the digits spell the number, and the token only splits them at the first one
    have hspells := spells_toString n.toNat rest
    rw [hdigits] at hspells
    exact ⟨_, spells_of_token h hspells⟩
  covers n rest := by
    have hne : (toString n.toNat).toList ≠ [] := by
      rw [Nat.toString_eq_ofList_toDigits, String.toList_ofList]
      exact Nat.toDigits_ne_nil
    obtain ⟨d, digits, hdigits⟩ := List.exists_cons_of_ne_nil hne
    exact ⟨_, .mk hdigits .here⟩

/-- A value that may be missing has a format if the value has. -/
theorem isFormat_nullable (hitem : IsFormat item) : IsFormat (Nullable item) where
  isJson := by
    intro value input rest h
    cases h with
    | null h => exact ⟨_, spells_of_token h .null⟩
    | value h => exact hitem.isJson h
  covers
    | none, _ => ⟨_, .null .here⟩
    | some a, rest => (hitem.covers a rest).imp fun _ => .value

/-- Items that are written one by one are the items of a JSON list. Induction on the items as
written. -/
theorem exists_spellsSomeItems (hitem : IsFormat item) {items : List α}
    (h : Items item items input rest) : ∃ vs, SpellsSomeItems vs input rest := by
  induction h with
  | last h hclose =>
    obtain ⟨v, hv⟩ := hitem.isJson h
    exact ⟨[v], .last hv hclose⟩
  | more h hcomma _ ih =>
    obtain ⟨v, hv⟩ := hitem.isJson h
    obtain ⟨vs, hvs⟩ := ih
    exact ⟨v :: vs, .more hv hcomma hvs⟩

/-- Items can be written one after the other: each in front of what is written for those after
it. -/
theorem exists_items (hitem : IsFormat item) (a : α) (items : List α) (rest : List Char) :
    ∃ input, Items item (a :: items) input rest := by
  induction items generalizing a with
  | nil =>
    obtain ⟨input, hfirst⟩ := hitem.covers a (']' :: rest)
    exact ⟨input, .last hfirst .here⟩
  | cons b items ih =>
    -- the items after the first are written first, since a format writes in front of a given rest
    obtain ⟨next, hmore⟩ := ih b
    obtain ⟨input, hfirst⟩ := hitem.covers a (',' :: next)
    exact ⟨input, .more hfirst .here hmore⟩

/-- **Lists are a format** if their items are. -/
theorem isFormat_listOf (hitem : IsFormat item) : IsFormat (ListOf item) where
  isJson := by
    intro items input rest h
    cases h with
    | empty hopen hclose => exact ⟨_, spells_of_token hopen (.array (.none hclose))⟩
    | items hopen hitems =>
      obtain ⟨vs, hvs⟩ := exists_spellsSomeItems hitem hitems
      exact ⟨_, spells_of_token hopen (.array (.some hvs))⟩
  covers
    | [], _ => ⟨_, .empty .here .here⟩
    | a :: items, rest => by
      obtain ⟨next, hitems⟩ := exists_items hitem a items rest
      exact ⟨_, .items .here hitems⟩

/-- Fields that are written one by one are the members of a JSON object. -/
theorem exists_spellsSomeMembers {s : σ} {written : List (FieldFormat σ)}
    (hfields : ∀ field ∈ written, IsFormat field.spelling) (h : Entries s written input rest) :
    ∃ members, SpellsSomeMembers members input rest := by
  induction h with
  | last hentry hclose =>
    obtain ⟨hquote, hname, hcolon, hvalue⟩ := hentry
    obtain ⟨v, hv⟩ := (hfields _ List.mem_cons_self).isJson hvalue
    exact ⟨_, .last hquote hname hcolon hv hclose⟩
  | more hentry hcomma _ ih =>
    obtain ⟨hquote, hname, hcolon, hvalue⟩ := hentry
    obtain ⟨hfield, hrest⟩ := List.forall_mem_cons.mp hfields
    obtain ⟨v, hv⟩ := hfield.isJson hvalue
    obtain ⟨members, hmembers⟩ := ih hrest
    exact ⟨_, .more hquote hname hcolon hv hcomma hmembers⟩

/-- A field can be written: its name in quotes, a colon, and its value. -/
theorem exists_entry {field : FieldFormat σ} (hfield : IsFormat field.spelling) (s : σ)
    (rest : List Char) : ∃ input, Entry field s input rest := by
  obtain ⟨value, hvalue⟩ := hfield.covers (field.get s) rest
  exact ⟨_, .mk .here (spellsChars_escape field.name.toList _) .here hvalue⟩

/-- Fields can be written one after the other, in the order in which they are given. -/
theorem exists_entries (field : FieldFormat σ) (fields : List (FieldFormat σ))
    (hfields : ∀ other ∈ field :: fields, IsFormat other.spelling) (s : σ) (rest : List Char) :
    ∃ input, Entries s (field :: fields) input rest := by
  induction fields generalizing field with
  | nil =>
    obtain ⟨input, hentry⟩ := exists_entry (hfields field List.mem_cons_self) s ('\x7d' :: rest)
    exact ⟨input, .last hentry .here⟩
  | cons other fields ih =>
    obtain ⟨hfield, hrest⟩ := List.forall_mem_cons.mp hfields
    obtain ⟨next, hmore⟩ := ih other hrest
    obtain ⟨input, hentry⟩ := exists_entry hfield s (',' :: next)
    exact ⟨input, .more hentry .here hmore⟩

/-- **Objects are a format** if the values of their fields are. -/
theorem isFormat_object (hfields : ∀ field ∈ fields, IsFormat field.spelling) :
    IsFormat (Object fields) where
  isJson := by
    intro s input rest h
    cases h with
    | empty _ hopen hclose => exact ⟨_, spells_of_token hopen (.object (.none hclose))⟩
    | @entries written _ _ _ _ hperm _ hopen hentries =>
      have hwritten : ∀ field ∈ written, IsFormat field.spelling := fun field hfield =>
        hfields field (hperm.subset (List.mem_append_left _ hfield))
      obtain ⟨members, hmembers⟩ := exists_spellsSomeMembers hwritten hentries
      exact ⟨_, spells_of_token hopen (.object (.some hmembers))⟩
  covers s rest := by
    cases fields with
    | nil => exact ⟨_, .empty (fun _ h => nomatch h) .here .here⟩
    | cons field fields =>
      -- one way to write an object is to write all its fields, in their order
      obtain ⟨next, hentries⟩ := exists_entries field fields hfields s rest
      have hperm : (field :: fields ++ []).Perm (field :: fields) := by rw [List.append_nil]
      exact ⟨_, .entries hperm (fun _ h => nomatch h) .here hentries⟩

end Spelling

end Registrar.Json
