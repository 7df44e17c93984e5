import Registrar.Json.Failure

/-!
# Reading from the left

A reader takes a value off the front of a text, or says why there is none. What it leaves is shorter
than what it was given: the proof is part of the answer, and is what makes repeated reading end.

* `view_widen` : widening an answer changes neither the value nor what is left.
-/

namespace Registrar.Json

variable {α β : Type} {input wide : List Char}

/-- A value taken off the front of `input`, and what is left. -/
structure Parsed (α : Type) (input : List Char) where
  value : α
  rest : List Char
  shorter : rest.length < input.length

/-- A value taken off the front of `input`, which may have taken nothing. -/
structure Taken (α : Type) (input : List Char) where
  value : α
  rest : List Char
  noLonger : rest.length ≤ input.length

theorem length_lt_cons (c : Char) (rest : List Char) : rest.length < (c :: rest).length :=
  Nat.lt_succ_self _

theorem length_le_self (input : List Char) : input.length ≤ input.length := Nat.le_refl _

/-- A value that is found without taking anything. -/
def Taken.nothing (value : α) (input : List Char) : Taken α input :=
  ⟨value, input, length_le_self input⟩

def Parsed.ofChar (value : α) (c : Char) (rest : List Char) : Parsed α (c :: rest) :=
  ⟨value, rest, length_lt_cons c rest⟩

/-- A value that is found after another one. -/
def Taken.after (p : Parsed β input) (t : Taken α p.rest) : Taken α input :=
  ⟨t.value, t.rest, Nat.le_trans t.noLonger (Nat.le_of_lt p.shorter)⟩

/-- A value that comes right after another one. -/
def Parsed.after (p : Parsed β input) (q : Parsed α p.rest) : Parsed α input :=
  ⟨q.value, q.rest, Nat.lt_trans q.shorter p.shorter⟩

/-- A value that begins with a character that was looked at. -/
def Parsed.fromToken (t : Parsed Char input) (p : Parsed α (t.value :: t.rest)) : Parsed α input :=
  ⟨p.value, p.rest, Nat.lt_of_lt_of_le p.shorter t.shorter⟩

/-- Something that is found after a character. -/
def Parsed.ofTaken (c : Char) (t : Taken α input) : Parsed α (c :: input) :=
  ⟨t.value, t.rest, Nat.lt_succ_of_le t.noLonger⟩

/-- Something that is certainly there may also be there. -/
def Parsed.toTaken (p : Parsed α input) : Taken α input :=
  ⟨p.value, p.rest, Nat.le_of_lt p.shorter⟩

/-- Change the value. -/
def Parsed.mapValue (f : α → β) (p : Parsed α input) : Parsed β input :=
  ⟨f p.value, p.rest, p.shorter⟩

/-- The answer of a reader to `input`. -/
abbrev Answer (α : Type) (input : List Char) := Except Failure (Parsed α input)

/-- Takes a value off the front of a text. -/
abbrev Reader (α : Type) := (input : List Char) → Answer α input

namespace Answer

/-- The value and what is left, without the proof. -/
def view (answer : Answer α input) : Except Failure (α × List Char) :=
  Except.map (fun p => (p.value, p.rest)) answer

/-- The same answer to a text that is no shorter. -/
def widen (h : input.length ≤ wide.length) (answer : Answer α input) : Answer α wide :=
  Except.map (fun p => ⟨p.value, p.rest, Nat.lt_of_lt_of_le p.shorter h⟩) answer

/-- The same answer to a text with a character in front. -/
def afterChar (c : Char) (answer : Answer α input) : Answer α (c :: input) :=
  answer.widen (Nat.le_succ _)

/-- The same answer to the text from which something else was taken first. -/
def after (p : Parsed β input) (answer : Answer α p.rest) : Answer α input :=
  answer.widen (Nat.le_of_lt p.shorter)

/-- Change the value. -/
def mapValue (f : α → β) (answer : Answer α input) : Answer β input :=
  Except.map (Parsed.mapValue f) answer

/-- Check the value, or turn it into another one. -/
def check (f : α → Except Failure β) (answer : Answer α input) : Answer β input :=
  match answer with
  | .error e => .error e
  | .ok p => Except.map (fun b => ⟨b, p.rest, p.shorter⟩) (f p.value)

@[simp] theorem view_widen (h : input.length ≤ wide.length) (answer : Answer α input) :
    (widen h answer).view = answer.view := by
  cases answer <;> rfl

@[simp] theorem view_afterChar (c : Char) (answer : Answer α input) :
    (afterChar c answer).view = answer.view := view_widen _ answer

@[simp] theorem view_after (p : Parsed β input) (answer : Answer α p.rest) :
    (after p answer).view = answer.view := view_widen _ answer

@[simp] theorem view_mapValue (f : α → β) (answer : Answer α input) :
    (mapValue f answer).view = answer.view.map fun p => (f p.1, p.2) := by
  cases answer <;> rfl

end Answer

/-- White space between the parts of a JSON text. -/
def isJsonBlank (c : Char) : Bool := c = ' ' || c = '\t' || c = '\n' || c = '\r'

/-- The text after the white space at its front. -/
def skipBlanks (input : List Char) : List Char := input.dropWhile isJsonBlank

theorem length_dropWhile_le (p : Char → Bool) (cs : List Char) :
    (cs.dropWhile p).length ≤ cs.length := (List.dropWhile_suffix p).length_le

/-- Skipping white space makes an input no longer. -/
theorem length_skipBlanks_le (input : List Char) : (skipBlanks input).length ≤ input.length :=
  length_dropWhile_le _ input

/-- The first character that is not white space, if there is one. -/
def nextToken (input : List Char) : Option (Parsed Char input) :=
  match h : skipBlanks input with
  | [] => none
  | c :: rest => some ⟨c, rest, by
      have := length_skipBlanks_le input
      simp only [h, List.length_cons] at this
      omega⟩

theorem nextToken_eq_none {input : List Char} (h : skipBlanks input = []) :
    nextToken input = none := by
  unfold nextToken
  split
  · rfl
  · simp_all

/-- What is left after white space begins with the next token. -/
theorem nextToken_eq_some {input rest : List Char} {c : Char} (h : skipBlanks input = c :: rest) :
    ∃ hlen, nextToken input = some ⟨c, rest, hlen⟩ := by
  have hlen : rest.length < input.length := by
    have := length_skipBlanks_le input
    simp only [h, List.length_cons] at this
    omega
  refine ⟨hlen, ?_⟩
  unfold nextToken
  split
  · simp_all
  · rename_i c' rest' h'
    obtain ⟨rfl, rfl⟩ : c' = c ∧ rest' = rest := by simpa [h] using h'.symm
    rfl

/-- Read from the first character that is not white space; a value is due there. -/
def token (body : (c : Char) → (rest : List Char) → Answer α (c :: rest)) : Reader α := fun input =>
  match nextToken input with
  | none => .error (.endOfText .value)
  | some t =>
    have hlen : (t.value :: t.rest).length ≤ input.length := t.shorter
    (body t.value t.rest).widen hlen

/-- Dispatching on the next token shows what the body makes of it. -/
theorem view_token_cons {body : (c : Char) → (rest : List Char) → Answer α (c :: rest)}
    {input rest : List Char} {c : Char} (h : skipBlanks input = c :: rest) :
    (token body input).view = (body c rest).view := by
  obtain ⟨hlen, heq⟩ := nextToken_eq_some h
  rw [token, heq]
  exact Answer.view_widen _ _

/-- The rest of one of the words `true`, `false` and `null`. -/
def readIdentifier : (expected input : List Char) → Except Failure (Taken Unit input)
  | [], input => .ok (.nothing () input)
  | _ :: _, [] => .error (.endOfText .value)
  | a :: expected, c :: input =>
    if a = c then (readIdentifier expected input).map fun t => (Parsed.ofTaken c t).toTaken
    else .error .expectedIdentifier

end Registrar.Json
