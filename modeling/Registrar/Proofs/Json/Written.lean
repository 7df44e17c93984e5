import Registrar.Proofs.Json.Unambiguous

/-!
# Texts that stand for a value wherever they are put

A text writes a value if it spells the value in front of whatever comes after it. Lists and objects
are written by putting commas between what is written for their items and members; white space in
front of an item, a member or a bracket changes nothing.

* `Writes` : a text for a value.
* `writes_array`, `writes_object` : texts with commas between them.
-/

namespace Registrar.Json

/-- White space only. -/
def AllBlank (text : String) : Prop := ∀ c ∈ text.toList, isJsonBlank c = true

/-- A text that spells a value, whatever comes after it. -/
def Writes (v : Value) (text : String) : Prop := ∀ rest, Spells v (text.toList ++ rest) rest

/-- A text that is a token after white space, whatever comes after it. -/
def WritesToken (c : Char) (text : String) : Prop := ∀ rest, Token c (text.toList ++ rest) rest

/-- A token with white space after it only. -/
def Opens (c : Char) (text : String) : Prop :=
  text.toList.head? = some c ∧ ∀ b ∈ text.toList.tail, isJsonBlank b = true

instance (text : String) : Decidable (AllBlank text) := List.decidableBAll _ _

instance (c : Char) (text : String) : Decidable (Opens c text) :=
  @instDecidableAnd _ _ _ (List.decidableBAll _ _)

/-- A text that spells a key and a value with a colon between them, whatever comes after it. -/
def WritesMember (member : String × Value) (text : String) : Prop :=
  ∀ rest, ∃ name colon value, Token '"' (text.toList ++ rest) name ∧
    SpellsChars member.1.toList name colon ∧ Token ':' colon value ∧ Spells member.2 value rest

/-! ## §1 — white space in front -/

/-- White space may be put in front of a value. -/
theorem spells_blanks {blanks input rest : List Char} {v : Value}
    (hblanks : ∀ c ∈ blanks, isJsonBlank c = true) (h : Spells v input rest) :
    Spells v (blanks ++ input) rest := by
  induction blanks with
  | nil => exact h
  | cons c blanks ih =>
    obtain ⟨hc, hblanks⟩ := List.forall_mem_cons.mp hblanks
    exact .blank hc (ih hblanks)

/-- White space may be put in front of a token. -/
theorem token_blanks {blanks input rest : List Char} {c : Char}
    (hblanks : ∀ b ∈ blanks, isJsonBlank b = true) (h : Token c input rest) :
    Token c (blanks ++ input) rest := by
  induction blanks with
  | nil => exact h
  | cons b blanks ih =>
    obtain ⟨hb, hblanks⟩ := List.forall_mem_cons.mp hblanks
    exact .blank hb (ih hblanks)

variable {comma closing text : String}

theorem Writes.after_blanks {v : Value} (h : Writes v text) (blanks : String)
    (hblanks : AllBlank blanks) : Writes v (blanks ++ text) := by
  intro rest
  rw [String.toList_append, List.append_assoc]
  exact spells_blanks hblanks (h rest)

theorem Writes.congr {text' : String} {v : Value} (h : Writes v text)
    (heq : text'.toList = text.toList) : Writes v text' := by
  intro rest
  rw [heq]
  exact h rest

/-- A token with white space before it only. -/
theorem writesToken {c : Char} (h : text.toList.dropWhile isJsonBlank = [c]) :
    WritesToken c text := by
  intro rest
  have hsplit := List.takeWhile_append_dropWhile (p := isJsonBlank) (l := text.toList)
  rw [← hsplit, h, List.append_assoc]
  exact token_blanks (List.all_eq_true.mp List.all_takeWhile) .here

/-- A text that opens something is its token and white space after it. -/
theorem Opens.split {c : Char} (h : Opens c text) :
    ∃ front, AllBlank front ∧ text = String.singleton c ++ front := by
  obtain ⟨hhead, htail⟩ := h
  refine ⟨String.ofList text.toList.tail, ?_, ?_⟩
  · rw [AllBlank, String.toList_ofList]
    exact htail
  · rw [← String.toList_inj, String.toList_append, String.toList_singleton, String.toList_ofList]
    exact (List.cons_head?_tail hhead).symm

/-! ## §2 — single values -/

theorem writes_null : Writes .null "null" := fun _ => .null

theorem writes_string (text : String) : Writes (.string text) (quote text) := spells_quote text

theorem writes_number (n : Nat) : Writes (.number n) (toString n) := spells_toString n

/-- A word that is written between its quotes as it is. -/
def IsPlain (word : String) : Prop := ∀ c ∈ word.toList, escapeChar c = [c]

/-- A plain word is quoted without any escapes. -/
theorem quote_of_isPlain {word : String} (h : IsPlain word) :
    quote word = "\"" ++ word ++ "\"" := by
  have hchars : ∀ cs : List Char, (∀ c ∈ cs, escapeChar c = [c]) → cs.flatMap escapeChar = cs := by
    intro cs hcs
    rw [List.flatMap_congr hcs]
    exact List.flatMap_singleton' cs
  rw [quote, escape, hchars _ h, String.ofList_toList]

/-- A key that needs no escapes, written with white space before it and its colon after it, and a
value. -/
theorem writesMember (text key : String) {value : String} {v : Value} (hkey : IsPlain key)
    (htext : text.toList.dropWhile isJsonBlank = '"' :: (key.toList ++ ['"', ':', ' ']))
    (hvalue : Writes v value) : WritesMember (key, v) (text ++ value) := by
  intro rest
  -- the key is spelled by its quoted text, and its characters are the name that is looked for
  have hquote := spells_quote key (':' :: ' ' :: (value.toList ++ rest))
  rw [quote_of_isPlain hkey] at hquote
  obtain ⟨name, hname, hchars⟩ := Spells.of_quote (by simpa using hquote)
  obtain rfl := Value.string.inj hname
  refine ⟨_, _, _, ?_, hchars, .here, .blank (by decide) (hvalue rest)⟩
  -- what is left to show is that the text comes to the quote after white space only
  have hsplit := List.takeWhile_append_dropWhile (p := isJsonBlank) (l := text.toList)
  rw [htext] at hsplit
  rw [String.toList_append, ← hsplit, List.append_assoc, List.append_assoc]
  refine token_blanks (List.all_eq_true.mp List.all_takeWhile) ?_
  have hhere : Token '"' ('"' :: (key.toList ++ '"' :: ':' :: ' ' :: (value.toList ++ rest)))
      (key.toList ++ '"' :: ':' :: ' ' :: (value.toList ++ rest)) := .here
  simpa using hhere

theorem WritesMember.congr {text' : String} {member : String × Value} (h : WritesMember member text)
    (heq : text'.toList = text.toList) : WritesMember member text' := by
  intro rest
  rw [heq]
  exact h rest

/-! ## §3 — commas between items and members -/

theorem token_singleton (c : Char) (text : String) (rest : List Char) :
    Token c ((String.singleton c ++ text).toList ++ rest) (text.toList ++ rest) := by
  rw [String.toList_append, List.append_assoc, String.toList_singleton]
  exact .here

theorem WritesMember.after_blanks {member : String × Value} (h : WritesMember member text)
    (blanks : String) (hblanks : AllBlank blanks) : WritesMember member (blanks ++ text) := by
  intro rest
  obtain ⟨name, colon, value, hquote, hname, hcolon, hv⟩ := h rest
  rw [String.toList_append, List.append_assoc]
  exact ⟨name, colon, value, token_blanks hblanks hquote, hname, hcolon, hv⟩

/-- Induction on the items after the first: an item comes before a comma or before the bracket. -/
theorem spellsSomeItems_intercalate (hcomma : Opens ',' comma) (hclose : WritesToken ']' closing)
    {v : Value} {vs : List Value} {texts : List String} (htext : Writes v text)
    (htexts : List.Forall₂ Writes vs texts) (rest : List Char) :
    SpellsSomeItems (v :: vs)
      ((comma.intercalate (text :: texts)).toList ++ (closing.toList ++ rest)) rest := by
  obtain ⟨between, hbetween, rfl⟩ := hcomma.split
  induction htexts generalizing v text with
  | nil =>
    rw [String.intercalate_singleton]
    exact .last (htext _) (hclose rest)
  | @cons w next _ _ hnext _ ih =>
    -- the white space after a comma goes to the item that follows
    have hmore := ih (hnext.after_blanks _ hbetween)
    rw [String.intercalate_cons_append] at hmore
    rw [String.intercalate_cons_cons, String.append_assoc, String.append_assoc,
      String.toList_append, List.append_assoc]
    exact .more (htext _) (token_singleton ',' _ _) hmore

/-- The same for members, which come before a comma or before the brace. -/
theorem spellsSomeMembers_intercalate (hcomma : Opens ',' comma)
    (hclose : WritesToken '\x7d' closing) {member : String × Value}
    {members : List (String × Value)} {texts : List String} (htext : WritesMember member text)
    (htexts : List.Forall₂ WritesMember members texts) (rest : List Char) :
    SpellsSomeMembers (member :: members)
      ((comma.intercalate (text :: texts)).toList ++ (closing.toList ++ rest)) rest := by
  obtain ⟨between, hbetween, rfl⟩ := hcomma.split
  induction htexts generalizing member text with
  | nil =>
    obtain ⟨name, colon, value, hquote, hname, hcolon, hv⟩ := htext (closing.toList ++ rest)
    rw [String.intercalate_singleton]
    exact .last hquote hname hcolon hv (hclose rest)
  | @cons _ next _ _ hnext _ ih =>
    have hmore := ih (hnext.after_blanks _ hbetween)
    obtain ⟨name, colon, value, hquote, hname, hcolon, hv⟩ := htext _
    rw [String.intercalate_cons_append] at hmore
    rw [String.intercalate_cons_cons, String.append_assoc, String.append_assoc,
      String.toList_append, List.append_assoc]
    exact .more hquote hname hcolon hv (token_singleton ',' _ _) hmore

/-- **Texts with commas between them write a list.** -/
theorem writes_array (opening comma closing : String) (hopen : Opens '[' opening)
    (hcomma : Opens ',' comma) (hclose : WritesToken ']' closing) {vs : List Value}
    {texts : List String} (h : List.Forall₂ Writes vs texts) :
    Writes (.array vs) (opening ++ comma.intercalate texts ++ closing) := by
  intro rest
  obtain ⟨front, hfront, rfl⟩ := hopen.split
  simp only [String.append_assoc, String.toList_append, List.append_assoc, String.toList_singleton]
  refine .array ?_
  cases h with
  | nil =>
    have hnone := token_blanks hfront (hclose rest)
    rw [String.intercalate_nil, String.toList_empty, List.nil_append]
    exact .none hnone
  | cons hv hvs =>
    -- the white space after the opening bracket goes to the first item
    have hsome := spellsSomeItems_intercalate hcomma hclose (hv.after_blanks _ hfront) hvs rest
    rw [String.intercalate_cons_append, String.toList_append, List.append_assoc] at hsome
    exact .some hsome

/-- **Texts with commas between them write an object.** -/
theorem writes_object (opening comma closing : String) (hopen : Opens '\x7b' opening)
    (hcomma : Opens ',' comma) (hclose : WritesToken '\x7d' closing)
    {members : List (String × Value)} {texts : List String}
    (h : List.Forall₂ WritesMember members texts) :
    Writes (.object members) (opening ++ comma.intercalate texts ++ closing) := by
  intro rest
  obtain ⟨front, hfront, rfl⟩ := hopen.split
  simp only [String.append_assoc, String.toList_append, List.append_assoc, String.toList_singleton]
  refine .object ?_
  cases h with
  | nil =>
    have hnone := token_blanks hfront (hclose rest)
    rw [String.intercalate_nil, String.toList_empty, List.nil_append]
    exact .none hnone
  | cons hm hms =>
    have hsome := spellsSomeMembers_intercalate hcomma hclose (hm.after_blanks _ hfront) hms rest
    rw [String.intercalate_cons_append, String.toList_append, List.append_assoc] at hsome
    exact .some hsome

end Registrar.Json
