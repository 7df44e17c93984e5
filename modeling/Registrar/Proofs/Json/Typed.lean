import Registrar.Json.Reader
import Registrar.Proofs.Json.Spelling
import Registrar.Proofs.Json.Unambiguous

/-!
# Readers follow spellings

A reader for a type takes whatever spells a value of it off the front of an input, and leaves what
comes after the value. For a structure this rests on what each member does to the value read so far:
it sets its own field and no other, so the order of the members makes no difference, and a field
that is left out keeps its initial value.

* `Follows` : a reader reads what is written.
* `follows_listOf` : lists, if the reader of their items does.
* `follows_object` : structures, if the readers of their fields do.
-/

namespace Registrar.Json

open Spelling

variable {α σ : Type} {c : Char} {input next rest : List Char}

/-- A reader takes the values that are written so off the front of an input. -/
def Follows (reader : Reader α) (spelling : Spelling α) : Prop :=
  ∀ ⦃a : α⦄ ⦃input rest : List Char⦄, spelling a input rest → Stops rest →
    (reader input).view = .ok (a, rest)

/-! ## §1 — single values -/

/-- White space is skipped up to the token. -/
theorem Token.skipBlanks (h : Token c input next) (hc : isJsonBlank c = false) :
    skipBlanks input = c :: next := by
  induction h with
  | here => exact List.dropWhile_cons_of_neg (by simp [hc])
  | blank hb _ ih =>
    rw [Json.skipBlanks, List.dropWhile_cons_of_pos hb]
    exact ih

theorem Token.nextToken (h : Token c input next) (hc : isJsonBlank c = false) :
    ∃ hlt, nextToken input = some ⟨c, next, hlt⟩ := nextToken_eq_some (h.skipBlanks hc)

theorem Token.view_token (h : Token c input next) (hc : isJsonBlank c = false)
    (body : (c : Char) → (rest : List Char) → Answer α (c :: rest)) :
    (token body input).view = (body c next).view := view_token_cons (h.skipBlanks hc)

/-- Strings are read as they are written, since their reader follows the grammar. -/
theorem follows_text : Follows readString Text := by
  rintro text input rest ⟨hquote, hchars⟩ -
  rw [readString, hquote.view_token (by decide), if_pos rfl, Answer.view_afterChar]
  exact view_readStringRest hchars

/-- The rest of a word is read if it is there, and what comes after it is left. -/
theorem readIdentifier_append (expected rest : List Char) :
    ∃ hle, readIdentifier expected (expected ++ rest) = .ok ⟨(), rest, hle⟩ := by
  induction expected with
  | nil => exact ⟨Nat.le_refl _, rfl⟩
  | cons a expected ih =>
    obtain ⟨hle, hread⟩ := ih
    refine ⟨Nat.le_succ_of_le hle, ?_⟩
    show readIdentifier (a :: expected) (a :: (expected ++ rest)) = _
    rw [readIdentifier, if_pos rfl, hread]
    rfl

theorem view_readWord (c : Char) (tail : String) (value : α) (rest : List Char) :
    (readWord tail value (tail.toList ++ rest) : Answer α (c :: (tail.toList ++ rest))).view =
      .ok (value, rest) := by
  obtain ⟨hle, hread⟩ := readIdentifier_append tail.toList rest
  rw [readWord, hread]
  rfl

/-- Flags are read by their words. -/
theorem follows_flag : Follows readBool Flag := by
  intro value input rest h _
  cases h with
  | true h =>
    rw [readBool, h.view_token (by decide), if_pos rfl]
    exact view_readWord 't' "rue" true rest
  -- the first letter tells the two words apart
  | false h =>
    rw [readBool, h.view_token (by decide), if_neg (by decide), if_pos rfl]
    exact view_readWord 'f' "alse" false rest

/-- The literal of a number that fits into a word is kept as an integer. -/
theorem Literal.value_ofNat {n : Nat} (h : n < Text.wordCount) :
    (Literal.ofNat n).value = .ok (.integer n) := by
  have hinteger : (Literal.ofNat n).integer? = some (n : Int) := by
    simp [integer?, ofNat, digitsValue_toDigits, h]
  rw [value, hinteger]

/-- A natural number is read as an integer while it fits into a word. -/
theorem view_readNumber {n : Nat} (h : n < Text.wordCount) (hrest : Stops rest) :
    (readNumber ((toString n).toList ++ rest)).view = .ok (.integer n, rest) := by
  have hread := view_readLiteral (.endOfText .value) (Literal.isProper_ofNat n) .none hrest
  have htext : (Literal.ofNat n).signText ++ (Literal.ofNat n).whole ++
      (Literal.ofNat n).fractionText ++ [] = (toString n).toList := by
    rw [Nat.toString_eq_ofList_toDigits, String.toList_ofList]
    simp [Literal.ofNat, Literal.signText, Literal.fractionText]
  rw [htext] at hread
  exact Answer.view_check hread (Literal.value_ofNat h)

/-- Whole numbers are read as they are written: they fit into 32 bits, so nothing is rounded or
rejected. -/
theorem follows_whole : Follows readUInt32 Whole := by
  rintro n input rest ⟨hdigits, h⟩ hrest
  next d digits =>
    have hsmall : n.toNat < 0x100000000 := n.toNat_lt
    have hdigit : d.isDigit = true := by
      have hmem : d ∈ Nat.toDigits 10 n.toNat := by
        rw [Nat.toString_eq_ofList_toDigits, String.toList_ofList] at hdigits
        rw [hdigits]
        exact List.mem_cons_self
      exact Nat.isDigit_of_mem_toDigits (by decide) (by decide) hmem
    have hblank : isJsonBlank d = false := by
      cases hb : isJsonBlank d with
      | false => rfl
      | true =>
        -- a number cannot go on with a blank, but with a digit
        have hstop : Stops (d :: digits) := stops_blank hb
        exact absurd (hdigit.symm.trans (hstop d rfl).1) (by decide)
    have hread := view_readNumber (n := n.toNat) (by unfold Text.wordCount; omega) hrest
    rw [hdigits] at hread
    rw [readUInt32, h.view_token hblank, if_pos (by simp [hdigit])]
    refine Answer.view_check hread ?_
    show (if 0 ≤ (n.toNat : Int) ∧ (n.toNat : Int) < 0x100000000 then _ else _) = _
    rw [if_pos (by omega)]
    simp

/-- Words that are told apart by a table are read, if the table finds each name again. -/
theorem follows_variant {known : List (String × α)} {name : α → String}
    (hname : ∀ a, known.find? (·.1 = name a) = some (name a, a)) :
    Follows (readVariant known) fun a => Text (name a) := by
  rintro a input rest ⟨hquote, hchars⟩ -
  rw [readVariant, hquote.view_token (by decide), if_pos rfl, Answer.view_afterChar]
  refine Answer.view_check (view_readStringRest hchars) ?_
  rw [variant, hname]

/-! ## §2 — values that may be missing, and lists -/

/-- The values are written with this character in front, after white space. -/
def Starts (spelling : Spelling α) (c : Char) : Prop :=
  ∀ ⦃a : α⦄ ⦃input rest : List Char⦄, spelling a input rest →
    ∃ next, Token c input next ∧ spelling a (c :: next) rest

theorem starts_text : Starts Text '"' := by
  rintro text input rest ⟨hquote, hchars⟩
  exact ⟨_, hquote, .mk .here hchars⟩

/-- Objects start with a brace. -/
theorem starts_object {fields : List (FieldFormat σ)} : Starts (Object fields) '\x7b' := by
  intro s input rest h
  cases h with
  | empty homitted hopen hclose => exact ⟨_, hopen, .empty homitted .here hclose⟩
  | entries hperm homitted hopen hentries =>
    exact ⟨_, hopen, .entries hperm homitted .here hentries⟩

variable {reader : Reader α} {item : Spelling α}

/-- A value that may be missing is read as it is written, unless it could be taken for the word of
the missing one. -/
theorem follows_nullable (h : Follows reader item) (hstarts : Starts item c)
    (hblank : isJsonBlank c = false) (hc : c ≠ 'n') :
    Follows (readOptional reader) (Nullable item) := by
  intro value input rest hvalue hrest
  cases hvalue with
  | null hnull =>
    rw [readOptional, hnull.view_token (by decide), if_pos rfl]
    exact view_readWord 'n' "ull" none rest
  | value hitem =>
    obtain ⟨next, htoken, hitem⟩ := hstarts hitem
    rw [readOptional, htoken.view_token hblank, if_neg hc, Answer.view_mapValue, h hitem hrest]
    rfl

/-- The place where the next item or member starts: at once for the first one, after a comma for
each other one. -/
inductive Separated : Bool → List Char → List Char → Prop where
  | first {input : List Char} : Separated true input input
  | later {input next : List Char} (h : Token ',' input next) : Separated false input next

/-- The next item is found where it starts, unless that is where the list ends. -/
theorem nextItem_of_separated {isFirst : Bool} (h : Separated isFirst input next)
    {after : List Char} (htoken : Token c next after) (hblank : isJsonBlank c = false) (hc : c ≠ ']') :
    ∃ hle, nextItem isFirst input = .ok (.item next hle) := by
  obtain ⟨hlt, hnext⟩ := htoken.nextToken hblank
  cases h with
  | first =>
    refine ⟨Nat.le_refl _, ?_⟩
    simp only [nextItem, hnext, if_neg hc, if_true]
  | later hcomma =>
    obtain ⟨hlt', hnext'⟩ := hcomma.nextToken (by decide)
    refine ⟨Nat.le_of_lt hlt', ?_⟩
    simp only [nextItem, hnext', hnext, if_neg hc, Bool.false_eq_true, if_false, if_true,
      show ',' ≠ ']' by decide]

/-- At the closing bracket there is no next item, whether or not one has come before. -/
theorem nextItem_of_close (h : Token ']' input rest) (isFirst : Bool) :
    ∃ hlt, nextItem isFirst input = .ok (.ended rest hlt) := by
  obtain ⟨hlt, hnext⟩ := h.nextToken (by decide)
  refine ⟨hlt, ?_⟩
  simp only [nextItem, hnext, if_true]

/-- At the closing bracket the list is at its end. -/
theorem view_readItems_close (h : Token ']' input rest) (isFirst : Bool) :
    (readItems reader isFirst input).view = .ok ([], rest) := by
  obtain ⟨hlt, hnext⟩ := nextItem_of_close h isFirst
  rw [readItems, hnext]
  rfl

/-- An item is read, and the reader goes on with the items after it. -/
theorem view_readItems_item (h : Follows reader item) (hstarts : Starts item c)
    (hblank : isJsonBlank c = false) (hc : c ≠ ']') {a : α} {items : List α}
    {after : List Char} {isFirst : Bool} (hseparated : Separated isFirst input next)
    (hitem : item a next after) (hstop : Stops after)
    (hmore : (readItems reader false after).view = .ok (items, rest)) :
    (readItems reader isFirst input).view = .ok (a :: items, rest) := by
  obtain ⟨_, htoken, -⟩ := hstarts hitem
  obtain ⟨hle, hnext⟩ := nextItem_of_separated hseparated htoken hblank hc
  obtain ⟨hlt, hread⟩ := Answer.eq_ok_of_view (h hitem hstop)
  -- the item is shorter than the input, and so the list reader may call itself on the rest
  rw [readItems, hnext]
  simp only [hread, Answer.view_widen, Answer.view_mapValue, hmore]
  rfl

/-- Induction on the items; what is generalised is where the first of them is found. -/
theorem view_readItems (h : Follows reader item) (hstarts : Starts item c)
    (hblank : isJsonBlank c = false) (hc : c ≠ ']') {items : List α}
    (hitems : Items item items next rest) {isFirst : Bool}
    (hseparated : Separated isFirst input next) :
    (readItems reader isFirst input).view = .ok (items, rest) := by
  induction hitems generalizing input isFirst with
  | last hitem hclose =>
    exact view_readItems_item h hstarts hblank hc hseparated hitem (hclose.stops (by decide))
      (view_readItems_close hclose false)
  -- every item after the first is found behind a comma, for which `Separated` is generalised
  | more hitem hcomma _ ih =>
    exact view_readItems_item h hstarts hblank hc hseparated hitem (hcomma.stops (by decide))
      (ih (.later hcomma))

/-- **Lists are read item by item**, nothing lost and in order. -/
theorem follows_listOf (h : Follows reader item) (hstarts : Starts item c)
    (hblank : isJsonBlank c = false) (hc : c ≠ ']') :
    Follows (readList reader) (ListOf item) := by
  intro items input rest hitems _
  cases hitems with
  | empty hopen hclose =>
    rw [readList, hopen.view_token (by decide), if_pos rfl, Answer.view_afterChar]
    exact view_readItems_close hclose true
  | items hopen hitems =>
    rw [readList, hopen.view_token (by decide), if_pos rfl, Answer.view_afterChar]
    exact view_readItems h hstarts hblank hc hitems .first

/-! ## §3 — structures -/

/-- What the value of a field makes of a structure: the field has that value then, and all other
fields are as they were. -/
structure Sets (fields : List (FieldFormat σ)) (field : FieldFormat σ) (a : field.α)
    (change : σ → σ) : Prop where
  field_eq : ∀ s, field.get (change s) = a
  others : ∀ other ∈ fields, other.name ≠ field.name → ∀ s, other.get (change s) = other.get s

/-- One of the members of a reader is this field: its value is read as it is written, and sets the
field and no other. -/
def ReadsField (members : List (Member σ)) (fields : List (FieldFormat σ))
    (field : FieldFormat σ) : Prop :=
  ∃ member, members.find? (·.name = field.name) = some member ∧
    ∀ ⦃a : field.α⦄ ⦃input rest : List Char⦄, field.spelling a input rest → Stops rest →
      ∃ change, (member.read input).view = .ok (change, rest) ∧ Sets fields field a change

/-- The members of a reader carry out a format: all fields are read, those without a default are
required, and the initial value has all defaults. -/
structure Carries (members : List (Member σ)) (fields : List (FieldFormat σ)) (initial : σ) :
    Prop where
  distinct : (fields.map (·.name)).Nodup
  reads : ∀ field ∈ fields, ReadsField members fields field
  isRequired : ∀ member ∈ members, member.isRequired = true →
    ∃ field ∈ fields, field.name = member.name ∧ field.default? = none
  initial : ∀ field ∈ fields, ∀ a ∈ field.default?, field.get initial = a
  ext : ∀ s t, (∀ field ∈ fields, field.get s = field.get t) → s = t

/-- Part of the way through an object: some fields are still to come, and all others have their
values. -/
structure Remaining (fields : List (FieldFormat σ)) (s : σ) (written : List (FieldFormat σ))
    (seen : List String) (value : σ) : Prop where
  subset : written ⊆ fields
  distinct : (written.map (·.name)).Nodup
  unseen : ∀ field ∈ written, field.name ∉ seen
  settled : ∀ field ∈ fields, field.name ∉ written.map (·.name) → field.get value = field.get s
  required : ∀ field ∈ fields, field.default? = none → field.name ∉ written.map (·.name) →
    field.name ∈ seen

variable {members : List (Member σ)} {fields written omitted : List (FieldFormat σ)}
  {field : FieldFormat σ} {initial s value : σ} {seen : List String} {change : σ → σ}
  {isFirst : Bool}

/-- At the start the fields that were left out have their defaults already. -/
theorem Carries.remaining (h : Carries members fields initial)
    (hperm : (written ++ omitted).Perm fields) (homitted : ∀ field ∈ omitted, field.MayOmit s) :
    Remaining fields s written [] initial := by
  have hdistinct := (hperm.map (·.name)).nodup_iff.mpr h.distinct
  rw [List.map_append] at hdistinct
  have hleft : ∀ field ∈ fields, field.name ∉ written.map (·.name) → field.MayOmit s := by
    intro field hfield hname
    rcases List.mem_append.mp (hperm.mem_iff.mpr hfield) with hwritten | homit
    · exact absurd (List.mem_map_of_mem hwritten) hname
    · exact homitted field homit
  refine ⟨fun field hfield => hperm.subset (List.mem_append_left _ hfield),
    (List.nodup_append.mp hdistinct).1, fun _ _ => List.not_mem_nil, ?_, ?_⟩
  · intro field hfield hname
    exact h.initial field hfield _ (hleft field hfield hname)
  · intro field hfield hdefault hname
    have homit : field.default? = some (field.get s) := hleft field hfield hname
    rw [hdefault] at homit
    exact nomatch homit

/-- Reading one field settles it, and does not unsettle the others. -/
theorem Remaining.step (h : Remaining fields s (field :: written) seen value)
    (hfields : (fields.map (·.name)).Nodup) (hsets : Sets fields field (field.get s) change) :
    Remaining fields s written (field.name :: seen) (change value) := by
  obtain ⟨hname, hdistinct⟩ := List.nodup_cons.mp h.distinct
  obtain ⟨hfield, hsubset⟩ := List.cons_subset.mp h.subset
  have hcons : ∀ {name : String}, name ≠ field.name → name ∉ written.map (·.name) →
      name ∉ (field :: written).map (·.name) :=
    fun hne hnot => List.not_mem_cons_of_ne_of_not_mem hne hnot
  refine ⟨hsubset, hdistinct, fun other hother => ?_, ?_, ?_⟩
  · have hne : other.name ≠ field.name := fun heq =>
      hname (List.mem_map.mpr ⟨other, hother, heq⟩)
    exact List.not_mem_cons_of_ne_of_not_mem hne (h.unseen other (List.mem_cons_of_mem _ hother))
  · intro other hother hnot
    by_cases heq : other.name = field.name
    · -- the name says which field it is
      obtain rfl := List.inj_on_of_nodup_map hfields hother hfield heq
      exact hsets.field_eq value
    · rw [hsets.others other hother heq]
      exact h.settled other hother (hcons heq hnot)
  · intro other hother hdefault hnot
    by_cases heq : other.name = field.name
    · exact heq ▸ List.mem_cons_self
    · exact List.mem_cons_of_mem _ (h.required other hother hdefault (hcons heq hnot))

/-- At the end nothing is missing, and the structure is the one that was written. -/
theorem Remaining.finish (h : Remaining fields s [] seen value)
    (hcarries : Carries members fields initial) :
    value = s ∧ members.find? (fun m => m.isRequired && m.name ∉ seen) = none := by
  refine ⟨hcarries.ext value s fun field hfield => h.settled field hfield List.not_mem_nil, ?_⟩
  rw [List.find?_eq_none]
  intro member hmember hmissing
  obtain ⟨hrequired, hseen⟩ := Bool.and_eq_true_iff.mp hmissing
  obtain ⟨field, hfield, hname, hdefault⟩ := hcarries.isRequired member hmember hrequired
  -- a required field is one without a default, and those have all been seen
  have hmem := h.required field hfield hdefault List.not_mem_nil
  exact of_decide_eq_true hseen (hname ▸ hmem)

/-- The key of the next member is found where it starts, and read. -/
theorem view_nextKey {key : String} {name colon : List Char} (h : Separated isFirst input next)
    (hquote : Token '"' next name) (hname : SpellsChars key.toList name colon) :
    (nextKey isFirst input).view = .ok (some key, colon) := by
  obtain ⟨hlt, hnext⟩ := hquote.nextToken (by decide)
  have hkey := view_readStringRest hname
  cases h with
  | first =>
    simp only [nextKey, hnext, show '"' ≠ '\x7d' by decide, if_false, if_true, Answer.view_after,
      Answer.view_mapValue, hkey]
    rfl
  | later hcomma =>
    obtain ⟨hlt', hnext'⟩ := hcomma.nextToken (by decide)
    simp only [nextKey, hnext', hnext, show ',' ≠ '\x7d' by decide, Bool.false_eq_true, if_false,
      if_true, Answer.view_after, Answer.view_mapValue, hkey]
    rfl

/-- At the closing brace there is no next key, whether or not a member has come before. -/
theorem nextKey_of_close (h : Token '\x7d' input rest) (isFirst : Bool) :
    (nextKey isFirst input).view = .ok (none, rest) := by
  obtain ⟨hlt, hnext⟩ := h.nextToken (by decide)
  simp only [nextKey, hnext, if_true]
  rfl

theorem view_readColon (h : Token ':' input rest) : (readColon input).view = .ok ((), rest) := by
  obtain ⟨hlt, hnext⟩ := h.nextToken (by decide)
  simp only [readColon, hnext, if_true]
  rfl

/-- At the closing brace the structure has all its values, if no field is to come. -/
theorem view_readMembers_close (hcarries : Carries members fields initial)
    (h : Remaining fields s [] seen value) (hclose : Token '\x7d' input rest) (isFirst : Bool) :
    (readMembers members seen isFirst value input).view = .ok (s, rest) := by
  obtain ⟨rfl, hnone⟩ := h.finish hcarries
  obtain ⟨hlt, hkey⟩ := Answer.eq_ok_of_view (nextKey_of_close hclose isFirst)
  rw [readMembers, hkey]
  simp only [hnone]
  rfl

/-- A member is read into its field, and the reader goes on with the members after it. -/
theorem view_readMembers_entry (hcarries : Carries members fields initial)
    (h : Remaining fields s (field :: written) seen value)
    (hseparated : Separated isFirst input next)
    {after : List Char} (hentry : Entry field s next after) (hstop : Stops after)
    (hmore : ∀ change, Sets fields field (field.get s) change →
      (readMembers members (field.name :: seen) false (change value) after).view = .ok (s, rest)) :
    (readMembers members seen isFirst value input).view = .ok (s, rest) := by
  obtain ⟨hquote, hname, hcolon, hvalue⟩ := hentry
  obtain ⟨member, hfind, hreads⟩ := hcarries.reads field (h.subset List.mem_cons_self)
  obtain ⟨change, hread, hsets⟩ := hreads hvalue hstop
  obtain ⟨hlt, hkey⟩ := Answer.eq_ok_of_view (view_nextKey hseparated hquote hname)
  obtain ⟨hlt', hcolon⟩ := Answer.eq_ok_of_view (view_readColon hcolon)
  obtain ⟨hlt'', hread⟩ := Answer.eq_ok_of_view hread
  rw [readMembers, hkey]
  -- the key is new and known, so the member reads its value
  simp only [if_neg (h.unseen field List.mem_cons_self), hcolon, hfind, readMember, hread]
  exact (Answer.view_widen _ _).trans (hmore change hsets)

/-- Induction on the fields that are written; the invariant is `Remaining`. -/
theorem view_readMembers (hcarries : Carries members fields initial)
    (h : Remaining fields s written seen value) (hentries : Entries s written next rest)
    (hseparated : Separated isFirst input next) :
    (readMembers members seen isFirst value input).view = .ok (s, rest) := by
  induction hentries generalizing input isFirst seen value with
  | last hentry hclose =>
    refine view_readMembers_entry hcarries h hseparated hentry (hclose.stops (by decide)) ?_
    intro change hsets
    exact view_readMembers_close hcarries (h.step hcarries.distinct hsets) hclose false
  | more hentry hcomma _ ih =>
    refine view_readMembers_entry hcarries h hseparated hentry (hcomma.stops (by decide)) ?_
    intro change hsets
    exact ih (h.step hcarries.distinct hsets) (.later hcomma)

/-- **Structures are read field by field**, in whatever order the fields come. -/
theorem follows_object (name : String) (hcarries : Carries members fields initial) :
    Follows (readStructure name members initial) (Object fields) := by
  intro s input rest h _
  have hopened : ∀ {next}, Token '\x7b' input next →
      (readMembers members [] true initial next).view = .ok (s, rest) →
        (readStructure name members initial input).view = .ok (s, rest) := by
    intro next hopen hread
    rw [readStructure, hopen.view_token (by decide), if_neg (by decide), if_pos rfl,
      Answer.view_afterChar]
    exact hread
  cases h with
  -- an empty object leaves out all fields, and then all of them have their defaults
  | empty homitted hopen hclose =>
    have hperm : ([] ++ fields).Perm fields := .refl fields
    have hremaining := hcarries.remaining hperm homitted
    exact hopened hopen (view_readMembers_close hcarries hremaining hclose true)
  | entries hperm homitted hopen hentries =>
    have hremaining := hcarries.remaining hperm homitted
    exact hopened hopen (view_readMembers hcarries hremaining hentries .first)

end Registrar.Json
