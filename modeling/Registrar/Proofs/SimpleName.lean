import Registrar.Proofs.Lists
import Registrar.TypeName

/-!
# Simple names

The name of a type is a path of segments, and a segment may have arguments, which are names of types
themselves. The simple name is read off the text alone: it is what stands between the last separator
before the first bracket and this bracket. Of the brackets and separators inside of arguments none
is ever looked at, because all of them come after the first bracket. But neither is any segment that
comes after it.

* `IsPath` : the grammar of names, with the segments that a name is made of.
* `IsSegment.beforeFirst_append` : how far a segment lets one see.
* `IsPath.exists_seen` : the segment that is seen last.
* `simpleName_of_isPath` : the simple name is the identifier of the first segment that has arguments,
  and of the last one if none has.
-/

namespace Registrar.TypeName

/-! ## §1 — the grammar -/

/-- The characters by which the parts of a name are told apart. -/
def partMarks : List Char := ['<', '>', '.', ':', ',']

/-- Characters that are no marks, at least one. -/
def IsIdentifier (cs : List Char) : Prop := cs ≠ [] ∧ ∀ c ∈ cs, c ∉ partMarks

instance (cs : List Char) : Decidable (IsIdentifier cs) :=
  decidable_of_iff (cs ≠ [] ∧ cs.all (· ∉ partMarks) = true) (by simp [IsIdentifier])

/-- A segment of a path, and whether it has arguments. -/
structure Segment where
  identifier : List Char
  isGeneric : Bool
deriving DecidableEq, Repr

/-- What may stand between two segments. -/
def separators : List (List Char) := [['.'], [':', ':']]

mutual

/-- A text that is a path of these segments. -/
inductive IsPath : List Char → List Segment → Prop where
  | last {cs : List Char} {segment : Segment} (only : IsSegment cs segment) :
      IsPath cs [segment]
  | more {cs separator rest : List Char} {segment : Segment} {segments : List Segment}
      (first : IsSegment cs segment) (between : separator ∈ separators)
      (path : IsPath rest segments) :
      IsPath (cs ++ (separator ++ rest)) (segment :: segments)

/-- An identifier, maybe with arguments in brackets. -/
inductive IsSegment : List Char → Segment → Prop where
  | plain {cs : List Char} (identifier : IsIdentifier cs) : IsSegment cs ⟨cs, false⟩
  | generic {cs arguments : List Char} (identifier : IsIdentifier cs)
      (inside : IsArguments arguments) :
      IsSegment (cs ++ '<' :: (arguments ++ ['>'])) ⟨cs, true⟩

/-- Paths with commas between them. -/
inductive IsArguments : List Char → Prop where
  | last {cs : List Char} {segments : List Segment} (only : IsPath cs segments) : IsArguments cs
  | more {cs rest : List Char} {segments : List Segment} (first : IsPath cs segments)
      (others : IsArguments rest) : IsArguments (cs ++ ',' :: rest)

end

theorem isPath_word (word : String) (h : IsIdentifier word.toList) :
    IsPath word.toList [⟨word.toList, false⟩] :=
  .last (.plain h)

theorem isSegment_pool : IsSegment "Pool<User>".toList ⟨"Pool".toList, true⟩ :=
  @IsSegment.generic "Pool".toList "User".toList (by decide) (.last (isPath_word "User" (by decide)))

theorem isPath_slot :
    IsPath "Pool<User>.Slot".toList [⟨"Pool".toList, true⟩, ⟨"Slot".toList, false⟩] :=
  @IsPath.more _ ['.'] _ _ _ isSegment_pool (by decide) (isPath_word "Slot" (by decide))

/-! ## §2 — what comes before the first bracket -/

/-- An identifier lets one see past it: it has no bracket. -/
theorem IsIdentifier.not_bracket {cs : List Char} (h : IsIdentifier cs) :
    ∀ c ∈ cs, (!decide (c = '<')) = true := by
  intro c hc
  have hne : c ≠ '<' := fun heq => h.2 c hc (heq ▸ by decide)
  simpa using hne

/-- An identifier is one part of a path: it has no separator. -/
theorem IsIdentifier.not_separator {cs : List Char} (h : IsIdentifier cs) :
    ∀ c ∈ cs, isSeparator c = false := by
  intro c hc
  have hdot : c ≠ '.' := fun heq => h.2 c hc (heq ▸ by decide)
  have hcolon : c ≠ ':' := fun heq => h.2 c hc (heq ▸ by decide)
  simp [isSeparator, hdot, hcolon]

theorem not_bracket_of_mem_separators {separator : List Char} (h : separator ∈ separators) :
    ∀ c ∈ separator, (!decide (c = '<')) = true := by
  simp only [separators, List.mem_cons, List.not_mem_nil, or_false] at h
  rcases h with rfl | rfl <;> exact List.all_eq_true.mp (by decide)

theorem IsSegment.isIdentifier {cs : List Char} {segment : Segment} (h : IsSegment cs segment) :
    IsIdentifier segment.identifier := by
  cases h with
  | plain identifier => exact identifier
  | generic identifier _ => exact identifier

/-- A segment without arguments lets one see what follows it; one with arguments ends the view right
after its identifier, whatever the arguments are. -/
theorem IsSegment.beforeFirst_append {cs : List Char} {segment : Segment}
    (h : IsSegment cs segment) (rest : List Char) :
    Text.beforeFirst (· = '<') (cs ++ rest) =
      segment.identifier ++ if segment.isGeneric then [] else Text.beforeFirst (· = '<') rest := by
  cases h with
  | plain identifier =>
    exact List.takeWhile_append_of_pos identifier.not_bracket
  | @generic cs arguments identifier _ =>
    show (cs ++ '<' :: (arguments ++ ['>']) ++ rest).takeWhile _ = cs ++ []
    rw [List.append_assoc, List.cons_append, List.append_nil]
    refine takeWhile_append_stop identifier.not_bracket ?_
    intro c hc
    obtain rfl := Option.some.inj hc
    decide

/-! ## §3 — the segment that is seen last -/

/-- What may come before a segment: nothing, or what ends in a separator. -/
def IsQualifier (cs : List Char) : Prop := ∀ c ∈ cs.getLast?, isSeparator c = true

theorem isQualifier_nil : IsQualifier [] := by
  intro c hc
  exact absurd hc (by simp)

/-- A qualifier is still one with a separator and more in front of it. -/
theorem IsQualifier.append {separator qualifier : List Char} (h : IsQualifier qualifier)
    (hbetween : separator ∈ separators) (front : List Char) :
    IsQualifier (front ++ (separator ++ qualifier)) := by
  have hseparator : ∃ c, separator.getLast? = some c ∧ isSeparator c = true := by
    simp only [separators, List.mem_cons, List.not_mem_nil, or_false] at hbetween
    rcases hbetween with rfl | rfl
    · exact ⟨'.', rfl, by decide⟩
    · exact ⟨':', rfl, by decide⟩
  obtain ⟨d, hd, hmark⟩ := hseparator
  intro c hc
  rw [List.getLast?_append, List.getLast?_append, hd] at hc
  -- the last character is that of the old qualifier, or that of the separator if there was none
  cases hqualifier : qualifier.getLast? with
  | none =>
    rw [hqualifier] at hc
    obtain rfl : d = c := Option.some.inj hc
    exact hmark
  | some last =>
    rw [hqualifier] at hc
    obtain rfl : last = c := Option.some.inj hc
    exact h last hqualifier

/-- The first segment that has arguments, or the last one if none has. -/
def IsSeenLast (segments : List Segment) (segment : Segment) : Prop :=
  ∃ front back, segments = front ++ segment :: back ∧ (∀ s ∈ front, s.isGeneric = false) ∧
    (segment.isGeneric = true ∨ back = [])

namespace IsSeenLast

variable {segments : List Segment} {segment seen : Segment}

theorem head (h : segment.isGeneric = true ∨ segments = []) :
    IsSeenLast (segment :: segments) segment :=
  ⟨[], segments, rfl, List.forall_mem_nil _, h⟩

theorem cons (h : IsSeenLast segments seen) (hplain : segment.isGeneric = false) :
    IsSeenLast (segment :: segments) seen := by
  obtain ⟨front, back, rfl, hfront, hend⟩ := h
  exact ⟨segment :: front, back, rfl, List.forall_mem_cons.mpr ⟨hplain, hfront⟩, hend⟩

/-- If only the last segment may have arguments, it is the one that is seen last. -/
theorem getLast? (h : IsSeenLast segments segment)
    (hplain : ∀ s ∈ segments.dropLast, s.isGeneric = false) :
    segments.getLast? = some segment := by
  obtain ⟨front, back, rfl, -, hend⟩ := h
  have hback : back = [] := by
    by_contra hne
    -- otherwise `segment` is not the last one, and yet has arguments
    have hmem : segment ∈ (front ++ segment :: back).dropLast := by
      rw [List.dropLast_append_cons, List.dropLast_cons_of_ne_nil hne]
      exact List.mem_append_right _ List.mem_cons_self
    have hgeneric := hend.resolve_right hne
    rw [hplain segment hmem] at hgeneric
    exact absurd hgeneric (by decide)
  rw [hback, List.getLast?_append_cons, List.getLast?_singleton]

end IsSeenLast

/-- **What is seen of a path** is a qualifier and the identifier of the segment that is seen last.
Induction on the path: a segment without arguments joins the qualifier. -/
theorem IsPath.exists_seen {cs : List Char} {segments : List Segment} (h : IsPath cs segments) :
    ∃ seen qualifier, IsSeenLast segments seen ∧ IsIdentifier seen.identifier ∧
      IsQualifier qualifier ∧ Text.beforeFirst (· = '<') cs = qualifier ++ seen.identifier :=
  match h with
  | @IsPath.last _ segment only => by
    refine ⟨segment, [], .head (Or.inr rfl), only.isIdentifier, isQualifier_nil, ?_⟩
    have hview := only.beforeFirst_append []
    rw [List.append_nil] at hview
    rw [hview]
    cases segment.isGeneric <;> simp [Text.beforeFirst]
  | @IsPath.more _ separator rest segment segments first between path => by
    cases hgeneric : segment.isGeneric with
    | true =>
      refine ⟨segment, [], .head (Or.inl hgeneric), first.isIdentifier, isQualifier_nil, ?_⟩
      rw [first.beforeFirst_append, if_pos hgeneric, List.append_nil, List.nil_append]
    | false =>
      obtain ⟨seen, qualifier, hseen, hidentifier, hqualifier, hview⟩ := path.exists_seen
      refine ⟨seen, segment.identifier ++ (separator ++ qualifier), hseen.cons hgeneric,
        hidentifier, hqualifier.append between _, ?_⟩
      have hbetween : Text.beforeFirst (· = '<') (separator ++ rest) =
          separator ++ Text.beforeFirst (· = '<') rest :=
        List.takeWhile_append_of_pos (not_bracket_of_mem_separators between)
      rw [first.beforeFirst_append, if_neg (by simp [hgeneric]), hbetween, hview,
        List.append_assoc, List.append_assoc]

/-! ## §4 — the simple name -/

/-- **The simple name** of a path is the identifier of the first segment that has arguments, and of
the last one if none has. So it is that of the last segment as long as no other one has arguments. -/
theorem simpleName_of_isPath {name : TypeName} {segments : List Segment}
    (h : IsPath name.text.toList segments) :
    ∃ segment, IsSeenLast segments segment ∧
      name.simpleName = String.ofList segment.identifier ∧
      ((∀ s ∈ segments.dropLast, s.isGeneric = false) → segments.getLast? = some segment) := by
  obtain ⟨segment, qualifier, hsegment, hidentifier, hlast, hseen⟩ := h.exists_seen
  refine ⟨segment, hsegment, ?_, hsegment.getLast?⟩
  -- no separator is in the identifier, and the qualifier ends in one
  have hafter : Text.afterLast isSeparator (Text.beforeFirst (· = '<') name.text.toList) =
      segment.identifier :=
    Text.afterLast_eq_iff.mpr ⟨hidentifier.not_separator, qualifier, hlast, hseen⟩
  rw [simpleName, hafter]

/-- Arguments of the last segment may hold anything that a name can be. -/
theorem simpleName_of_isPath_arguments :
    let name : TypeName := ⟨"global::Map<Key,Pool<User>.Slot>"⟩
    let segments : List Segment := [⟨"global".toList, false⟩, ⟨"Map".toList, true⟩]
    IsPath name.text.toList segments ∧ name.simpleName = "Map" ∧
      ∃ segment, IsSeenLast segments segment ∧
        name.simpleName = String.ofList segment.identifier ∧
        ((∀ s ∈ segments.dropLast, s.isGeneric = false) → segments.getLast? = some segment) := by
  have hinside : IsArguments "Key,Pool<User>.Slot".toList :=
    .more (isPath_word "Key" (by decide)) (.last isPath_slot)
  have hmap : IsSegment "Map<Key,Pool<User>.Slot>".toList ⟨"Map".toList, true⟩ :=
    @IsSegment.generic "Map".toList _ (by decide) hinside
  have hpath : IsPath "global::Map<Key,Pool<User>.Slot>".toList
      [⟨"global".toList, false⟩, ⟨"Map".toList, true⟩] :=
    @IsPath.more "global".toList [':', ':'] _ _ _ (.plain (by decide)) (by decide) (.last hmap)
  exact ⟨hpath, by decide, simpleName_of_isPath hpath⟩

/-- A type that is declared inside of a generic one goes by the name of the generic one. -/
theorem simpleName_inside_generic :
    let name : TypeName := ⟨"Pool<User>.Slot"⟩
    let last : Segment := ⟨"Slot".toList, false⟩
    IsPath name.text.toList [⟨"Pool".toList, true⟩, last] ∧
      name.simpleName = "Pool" ∧ name.simpleName ≠ String.ofList last.identifier :=
  ⟨isPath_slot, by decide, by decide⟩

end Registrar.TypeName
