import Registrar.Text.Digits

/-!
# Message templates

A template is a text with numbered placeholders, `Type '{0}' has ...`. It is cut into pieces
once, and only the number of arguments decides how: a placeholder is a pair of braces around the
number of an argument that is there. All other characters stand for themselves. Because the pieces
are fixed before anything is filled in, braces inside an argument are never looked at.

* `flatMap_source_pieces` : the pieces of a template make up the template.
-/

namespace Registrar.Text

/-- The number between the braces of a placeholder: an optional plus sign and at least one digit,
within a word of 64 bits. -/
def placeholderIndex? (inner : List Char) : Option Nat :=
  let digits := dropPlus inner
  if digits.isEmpty || !digits.all Char.isDigit then none
  else
    let index := digitsValue digits
    if index < wordCount then some index else none
where
  /-- A number may start with one plus sign. -/
  dropPlus : List Char → List Char
    | '+' :: digits => digits
    | digits => digits

/-- A part of a template. -/
inductive Piece where
  /-- A character that stands for itself. -/
  | char (c : Char)
  /-- Braces around `inner`, which is the number `index` of an argument. -/
  | placeholder (inner : List Char) (index : Nat)
deriving Repr, DecidableEq

/-- The text between a brace that was just opened and the next closing one, the number of an
argument that it names, and the text that follows. -/
def placeholder? (count : Nat) (rest : List Char) : Option (List Char × Nat × List Char) :=
  match rest.dropWhile (· ≠ '\x7d') with
  | [] => none
  | _ :: after =>
    let inner := rest.takeWhile (· ≠ '\x7d')
    match placeholderIndex? inner with
    | some index => if index < count then some (inner, index, after) else none
    | none => none

/-- A placeholder is an index below the count, up to the first closing brace. -/
theorem placeholder?_eq_some {count : Nat} {rest inner after : List Char} {index : Nat}
    (h : placeholder? count rest = some (inner, index, after)) :
    rest = inner ++ '\x7d' :: after ∧ '\x7d' ∉ inner ∧ placeholderIndex? inner = some index ∧
      index < count := by
  unfold placeholder? at h
  split at h
  · simp at h
  · rename_i c tail hdrop
    have hc : c = '\x7d' := by
      have := List.head?_dropWhile_not (· ≠ '\x7d') rest
      rw [hdrop] at this
      simpa using this
    dsimp only at h
    split at h
    · rename_i i hi
      split at h
      · rename_i hlt
        simp only [Option.some.injEq, Prod.mk.injEq] at h
        obtain ⟨rfl, rfl, rfl⟩ := h
        refine ⟨?_, ?_, hi, hlt⟩
        · have := List.takeWhile_append_dropWhile (p := (· ≠ '\x7d')) (l := rest)
          rw [hdrop, hc] at this
          exact this.symm
        · intro hmem
          have := List.all_eq_true.1 (List.all_takeWhile (p := (· ≠ '\x7d')) (l := rest)) _ hmem
          simp at this
      · simp at h
    · simp at h

/-- The pieces of a template for `count` arguments. -/
def pieces (count : Nat) : List Char → List Piece
  | [] => []
  | c :: rest =>
    if c = '\x7b' then
      match h : placeholder? count rest with
      | some (inner, index, after) =>
        have := congrArg List.length (placeholder?_eq_some h).1
        .placeholder inner index :: pieces count after
      | none => .char c :: pieces count rest
    else .char c :: pieces count rest
termination_by cs => cs.length
decreasing_by all_goals (simp only [List.length_append, List.length_cons] at *; omega)

/-- How a piece is written in the template. -/
def Piece.source : Piece → List Char
  | .char c => [c]
  | .placeholder inner _ => '\x7b' :: inner ++ ['\x7d']

/-- What stands for a piece in the filled template. -/
def Piece.fill (args : List String) : Piece → List Char
  | .char c => [c]
  | .placeholder inner index =>
    match args[index]? with
    | some arg => arg.toList
    | none => (Piece.placeholder inner index).source

/-- `template` with every placeholder replaced by its argument. -/
def render (template : String) (args : List String) : String :=
  String.ofList ((pieces args.length template.toList).flatMap (Piece.fill args))

/-- The pieces of a template make up the template. -/
theorem flatMap_source_pieces (count : Nat) (cs : List Char) :
    (pieces count cs).flatMap Piece.source = cs := by
  fun_induction pieces count cs with
  | case1 => rfl
  | case2 rest inner index after h _ ih =>
    rw [List.flatMap_cons, ih, (placeholder?_eq_some h).1]
    simp [Piece.source]
  | case3 rest h ih => simp [Piece.source, ih]
  | case4 c rest hc ih => simp [Piece.source, ih]

end Registrar.Text
