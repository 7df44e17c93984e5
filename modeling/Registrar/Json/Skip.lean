import Registrar.Json.Number
import Registrar.Json.StringReader

/-!
# Values that are skipped

The value of a key that nobody asks for is read only so far as to find its end. It may be nested to
any depth: the lists and objects that are open are kept in a list, the innermost one first.
-/

namespace Registrar.Json

/-- A list or an object that is open. -/
inductive Container where
  | list
  | object
deriving DecidableEq, Repr

namespace Container

def closing : Container → Char
  | list => ']'
  | object => '\x7d'

/-- What was being read when the text ended within it. -/
def unfinished : Container → Unfinished
  | list => .list
  | object => .object

/-- What is due after a value within it. -/
def expectedEnd : Container → Failure
  | list => .expectedListEnd
  | object => .expectedObjectEnd

end Container

/-- A key and the colon after it. -/
def skipKey (input : List Char) : Answer Unit input :=
  match nextToken input with
  | none => .error (.endOfText .object)
  | some t =>
    if t.value = '"' then
      match skipStringRest t.rest with
      | .error e => .error e
      | .ok key =>
        match nextToken key.rest with
        | none => .error (.endOfText .object)
        | some colon =>
          if colon.value = ':' then .ok (t.after (key.after (colon.mapValue fun _ => ())))
          else .error .expectedColon
    else .error .keyMustBeString

/-- A value that is neither a list nor an object. -/
def skipScalar : Reader Unit
  | [] => .error (.endOfText .value)
  | c :: rest =>
    if c = 'n' then identifier "ull".toList rest
    else if c = 't' then identifier "rue".toList rest
    else if c = 'f' then identifier "alse".toList rest
    else if c = '"' then (skipStringRest rest).afterChar c
    else if c = '-' || c.isDigit then
      (readLiteral .invalidNumber (c :: rest)).mapValue fun _ => ()
    else .error .expectedValue
where
  /-- The rest of a word. -/
  identifier {c : Char} (expected rest : List Char) : Answer Unit (c :: rest) :=
    (readIdentifier expected rest).map (Parsed.ofTaken c)

/-- Where the reading of a skipped value stands. -/
inductive SkipState where
  /-- A value is due. -/
  | value
  /-- A list or an object was just opened. -/
  | opened
  /-- A value is complete. -/
  | complete
deriving DecidableEq, Repr

/-- States in which nothing is read before the next state come after it. -/
def SkipState.rank : SkipState → Nat
  | value => 0
  | opened | complete => 1

/-- Skip to the end of the value to which the open containers belong. In the state `opened` the
first of them was just opened. -/
def skipFrom (state : SkipState) (containers : List Container) (input : List Char) :
    Except Failure (Taken Unit input) :=
  match state with
  | .value =>
    match nextToken input with
    | none => .error (.endOfText .value)
    | some t =>
      have := t.shorter
      if t.value = '[' then
        (skipFrom .opened (.list :: containers) t.rest).map (Taken.after t)
      else if t.value = '\x7b' then
        (skipFrom .opened (.object :: containers) t.rest).map (Taken.after t)
      else
        match (skipScalar (t.value :: t.rest)).map (Parsed.fromToken t) with
        | .error e => .error e
        | .ok scalar =>
          have := scalar.shorter
          (skipFrom .complete containers scalar.rest).map (Taken.after scalar)
  | .opened =>
    match containers with
    | [] => .ok (.nothing () input)
    | container :: outer =>
      match nextToken input with
      | none => .error (.endOfText container.unfinished)
      | some t =>
        have := t.shorter
        if t.value = container.closing then
          (skipFrom .complete outer t.rest).map (Taken.after t)
        else
          match container with
          | .list => skipFrom .value (.list :: outer) input
          | .object =>
            match skipKey input with
            | .error e => .error e
            | .ok key =>
              have := key.shorter
              (skipFrom .value (.object :: outer) key.rest).map (Taken.after key)
  | .complete =>
    match containers with
    | [] => .ok (.nothing () input)
    | container :: outer =>
      match nextToken input with
      | none => .error (.endOfText container.unfinished)
      | some t =>
        have := t.shorter
        if t.value = container.closing then
          (skipFrom .complete outer t.rest).map (Taken.after t)
        else if t.value = ',' then
          match container with
          | .list => (skipFrom .value (.list :: outer) t.rest).map (Taken.after t)
          | .object =>
            match (skipKey t.rest).map (Parsed.after t) with
            | .error e => .error e
            | .ok key =>
              have := key.shorter
              (skipFrom .value (.object :: outer) key.rest).map (Taken.after key)
        else .error container.expectedEnd
termination_by (input.length, state.rank)
decreasing_by
  all_goals first
    | exact Prod.Lex.left _ _ (by assumption)
    | exact Prod.Lex.right _ (by decide)

/-- A value of any kind. -/
def skipValue (input : List Char) : Except Failure (Taken Unit input) := skipFrom .value [] input

end Registrar.Json
