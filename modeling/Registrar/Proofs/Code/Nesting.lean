import Registrar.Code.Writer
import Registrar.Text.Segment

/-!
# Nested lines

A text is properly nested when its lines, read one after another, open and close blocks in turn and
are indented by as much as there are open blocks around them. This is said of the text alone: the
only thing that is kept from line to line is the number of open blocks.

* `Nests` : lines that are properly nested, from one number of open blocks to another.
* `textLines_renderAll` : the lines of what is written are the lines that were to be written.
* `Nests.renderAll` : so a text is properly nested when the lines that it is written from are.
-/

namespace Registrar.Code

/-! ## §1 — the lines of a text -/

/-- What stands between line ends. After a line end at the end of the text that is nothing. -/
def textLines (text : String) : List (List Char) := Text.splitWhere (· = '\n') text.toList

/-- The blanks before a line within so many blocks: four for each. -/
def indentation (depth : Nat) : List Char := List.replicate (4 * depth) ' '

/-- A line as it is found in a text, without its line end. -/
def Line.chars (line : Line) : List Char := indentation line.depth ++ line.text.toList

theorem not_mem_indentation (depth : Nat) : '\n' ∉ indentation depth := by
  simp [indentation]

/-- **The lines of what is written** are those that were to be written. Induction on the lines, each
of which is cut off at its end. -/
theorem textLines_renderAll {lines : List Line} (h : ∀ line ∈ lines, '\n' ∉ line.chars) :
    textLines (Line.renderAll lines) = lines.map Line.chars ++ [[]] := by
  induction lines with
  | nil => rfl
  | cons line lines ih =>
    obtain ⟨hline, hlines⟩ := List.forall_mem_cons.mp h
    -- up to its end a line is not cut
    have hwhole : Text.splitWhere (· = '\n') line.chars = [line.chars] := by
      refine Text.splitWhere_of_none fun c hc => decide_eq_false ?_
      rintro rfl
      exact hline hc
    have hcut := toList_renderAll_cons line.depth line.text lines
    rw [textLines, hcut, Text.splitWhere_append_cons (decide_eq_true rfl)]
    show Text.splitWhere _ line.chars ++ textLines (Line.renderAll lines) = _
    rw [hwhole, ih hlines]
    rfl

/-! ## §2 — nesting -/

/-- What can stand on a line after its indentation, braces apart: a text that stays on the line and
does not start with a blank, which would be taken for indentation, or with a brace. -/
def IsContent (text : String) : Prop :=
  '\n' ∉ text.toList ∧ text.toList.head?.any (· ∉ [' ', '\x7b', '\x7d']) = true

instance (text : String) : Decidable (IsContent text) := inferInstanceAs (Decidable (_ ∧ _))

/-- What a text starts with decides whether it is content, as long as it stays on its line. -/
theorem IsContent.append {a b : String} (ha : IsContent a) (hb : '\n' ∉ b.toList) :
    IsContent (a ++ b) := by
  obtain ⟨hline, hstart⟩ := ha
  rw [IsContent, String.toList_append]
  refine ⟨fun hmem => (List.mem_append.mp hmem).elim hline hb, ?_⟩
  cases hchars : a.toList with
  | nil =>
    rw [hchars] at hstart
    exact absurd hstart Bool.false_ne_true
  | cons c rest => rwa [hchars] at hstart

theorem IsContent.around {start text finish : String} (hstart : IsContent start)
    (htext : '\n' ∉ text.toList) (hfinish : '\n' ∉ finish.toList) :
    IsContent (start ++ text ++ finish) :=
  (hstart.append htext).append hfinish

/-- Lines that are read within so many open blocks, and how many are open after them. A line that is
not empty is indented by four blanks for each block around it, and the braces of a block are outside
of it; no brace closes a block that was not opened. -/
inductive Nests : Nat → List (List Char) → Nat → Prop where
  | nil {depth : Nat} : Nests depth [] depth
  | empty {depth final : Nat} {rest : List (List Char)} (hrest : Nests depth rest final) :
      Nests depth ([] :: rest) final
  | content {depth final : Nat} {text : String} {rest : List (List Char)} (htext : IsContent text)
      (hrest : Nests depth rest final) :
      Nests depth ((indentation depth ++ text.toList) :: rest) final
  | opening {depth final : Nat} {rest : List (List Char)} (hrest : Nests (depth + 1) rest final) :
      Nests depth ((indentation depth ++ "\x7b".toList) :: rest) final
  | closing {depth final : Nat} {rest : List (List Char)} (hrest : Nests depth rest final) :
      Nests (depth + 1) ((indentation depth ++ "\x7d".toList) :: rest) final

namespace Nests

variable {depth between final : Nat}

/-- **Nested lines are put together** where the first ones end as deep as the others begin. -/
theorem append {a b : List (List Char)} (ha : Nests depth a between) (hb : Nests between b final) :
    Nests depth (a ++ b) final := by
  induction ha with
  | nil => exact hb
  | empty _ ih => exact .empty (ih hb)
  | content htext _ ih => exact .content htext (ih hb)
  | opening _ ih => exact .opening (ih hb)
  | closing _ ih => exact .closing (ih hb)

/-- No line among nested ones goes over its end. -/
theorem not_mem {lines : List (List Char)} (h : Nests depth lines final) {line : List Char}
    (hline : line ∈ lines) : '\n' ∉ line := by
  have hindented : ∀ {d : Nat} {cs : List Char}, '\n' ∉ cs → '\n' ∉ indentation d ++ cs :=
    fun hcs hmem => (List.mem_append.mp hmem).elim (not_mem_indentation _) hcs
  -- blanks, content and braces: each kind of line is free of line ends for a reason of its own
  induction h with
  | nil => exact absurd hline List.not_mem_nil
  | empty _ ih => exact (List.mem_cons.mp hline).elim (fun heq => heq ▸ List.not_mem_nil) ih
  | content htext _ ih =>
    exact (List.mem_cons.mp hline).elim (fun heq => heq ▸ hindented htext.1) ih
  | opening _ ih =>
    exact (List.mem_cons.mp hline).elim (fun heq => heq ▸ hindented (by decide)) ih
  | closing _ ih =>
    exact (List.mem_cons.mp hline).elim (fun heq => heq ▸ hindented (by decide)) ih

/-- **A text is properly nested when the lines that it is written from are.** -/
theorem renderAll {lines : List Line} (h : Nests depth (lines.map Line.chars) final) :
    Nests depth (textLines (Line.renderAll lines)) final := by
  rw [textLines_renderAll fun line hline => h.not_mem (List.mem_map_of_mem hline)]
  exact h.append (.empty .nil)

end Nests

end Registrar.Code
