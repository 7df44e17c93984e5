import Registrar.Json.Skip

/-!
# Readers for typed values

Readers for values of a known type: strings, truth values, numbers of lines and columns, lists,
values that may be `null`, names out of a list, and structures. A structure is an object, or a list
that has the members in their order. A member that is not required keeps its initial value when it
is left out; a key that is no member is skipped with its value.
-/

namespace Registrar.Json

variable {α σ : Type}

/-- Why a value that starts with `c` is of no use where `expected` is asked for. The value is read as
far as it takes to name it, and that can fail on its own. -/
def wrongType (expected : String) (c : Char) (rest : List Char) : Failure :=
  if c = 'n' then afterWord "ull" .null
  else if c = 't' then afterWord "rue" (.boolean true)
  else if c = 'f' then afterWord "alse" (.boolean false)
  else if c = '-' || c.isDigit then
    match readNumber (c :: rest) with
    | .error e => e
    | .ok p => .invalidType p.value.found expected
  else if c = '"' then
    match readStringRest rest with
    | .error e => e
    | .ok p => .invalidType (.string p.value) expected
  else if c = '[' then .invalidType .sequence expected
  else if c = '\x7b' then .invalidType .map expected
  else .expectedValue
where
  /-- The failure for a word, unless the word itself fails. -/
  afterWord (tail : String) (found : Found) : Failure :=
    match readIdentifier tail.toList rest with
    | .error e => e
    | .ok _ => .invalidType found expected

/-- A word that stands for a value, after its first character. -/
def readWord {c : Char} (tail : String) (value : α) (rest : List Char) : Answer α (c :: rest) :=
  (readIdentifier tail.toList rest).map fun t => .ofTaken c { t with value }

def readString : Reader String :=
  token fun c rest =>
    if c = '"' then (readStringRest rest).afterChar c
    else .error (wrongType "a string" c rest)

/-- `true` or `false`. -/
def readBool : Reader Bool :=
  token fun c rest =>
    if c = 't' then readWord "rue" true rest
    else if c = 'f' then readWord "alse" false rest
    else .error (wrongType "a boolean" c rest)

/-- A whole number below 2 ^ 32. -/
def readUInt32 : Reader UInt32 :=
  token fun c rest =>
    if c = '-' || c.isDigit then
      (readNumber (c :: rest)).check fun number =>
        match number with
        | .integer value =>
          if 0 ≤ value ∧ value < 0x100000000 then .ok value.toNat.toUInt32
          else .error (.invalidValue (.integer value) "u32")
        | .float bits => .error (.invalidType (.float bits) "u32")
    else .error (wrongType "u32" c rest)

/-- `null`, or a value. -/
def readOptional (item : Reader α) : Reader (Option α) :=
  token fun c rest =>
    if c = 'n' then readWord "ull" none rest
    else (item (c :: rest)).mapValue some

/-! ## Lists -/

/-- What comes next in a list. -/
inductive ListStep (input : List Char) where
  /-- An item. -/
  | item (rest : List Char) (noLonger : rest.length ≤ input.length)
  /-- The end of the list, which is taken off. -/
  | ended (rest : List Char) (shorter : rest.length < input.length)

/-- Find the next item of a list, or its end. -/
def nextItem (isFirst : Bool) (input : List Char) : Except Failure (ListStep input) :=
  match nextToken input with
  | none => .error (.endOfText .list)
  | some t =>
    if t.value = ']' then .ok (.ended t.rest t.shorter)
    else if isFirst then .ok (.item input (length_le_self input))
    else if t.value = ',' then
      match nextToken t.rest with
      | none => .error (.endOfText .value)
      | some t' =>
        if t'.value = ']' then .error .trailingComma
        else .ok (.item t.rest (Nat.le_of_lt t.shorter))
    else .error .expectedListEnd

def readItems (item : Reader α) (isFirst : Bool) (input : List Char) : Answer (List α) input :=
  match nextItem isFirst input with
  | .error e => .error e
  | .ok (.ended rest shorter) => .ok ⟨[], rest, shorter⟩
  | .ok (.item rest noLonger) =>
    match item rest with
    | .error e => .error e
    | .ok p =>
      have : p.rest.length < input.length := Nat.lt_of_lt_of_le p.shorter noLonger
      ((readItems item false p.rest).mapValue (p.value :: ·)).widen (Nat.le_of_lt this)
termination_by input.length

def readList (item : Reader α) : Reader (List α) :=
  token fun c rest =>
    if c = '[' then (readItems item true rest).afterChar c
    else .error (wrongType "a sequence" c rest)

/-! ## Structures -/

/-- A member of a structure that is read into `σ`. -/
structure Member (σ : Type) where
  name : String
  /-- It cannot be left out. -/
  isRequired : Bool
  /-- Reads the value and says what becomes of the structure. -/
  read : Reader (σ → σ)

/-- Nothing but the end may follow the last member of a structure written as a list. -/
def closePositional (input : List Char) : Answer Unit input :=
  match nextToken input with
  | none => .error (.endOfText .list)
  | some t =>
    if t.value = ']' then .ok ⟨(), t.rest, t.shorter⟩
    else if t.value = ',' then
      match nextToken t.rest with
      | some t' => if t'.value = ']' then .error .trailingComma else .error .trailingCharacters
      | none => .error .trailingCharacters
    else .error .trailingCharacters

/-- The members of a structure written as a list; `count` of them are read already. -/
def readPositional (expected : String) (value : σ) (count : Nat) :
    (members : List (Member σ)) → (input : List Char) → Answer σ input
  | [], input => (closePositional input).mapValue fun _ => value
  | member :: members, input =>
    match nextItem (count = 0) input with
    | .error e => .error e
    | .ok (.ended rest shorter) =>
      match (member :: members).findIdx? (·.isRequired) with
      | some i => .error (.invalidLength (count + i) expected)
      | none => .ok ⟨value, rest, shorter⟩
    | .ok (.item rest noLonger) =>
      match member.read rest with
      | .error e => .error e
      | .ok p =>
        (readPositional expected (p.value value) (count + 1) members p.rest).widen
          (Nat.le_trans (Nat.le_of_lt p.shorter) noLonger)

/-- Find the next key of an object, or its end. -/
def nextKey (isFirst : Bool) (input : List Char) : Answer (Option String) input :=
  match nextToken input with
  | none => .error (.endOfText .object)
  | some t =>
    if t.value = '\x7d' then .ok ⟨none, t.rest, t.shorter⟩
    else if isFirst then
      if t.value = '"' then
        ((readStringRest t.rest).mapValue some).after t
      else .error .keyMustBeString
    else if t.value = ',' then
      match nextToken t.rest with
      | none => .error (.endOfText .value)
      | some t' =>
        if t'.value = '"' then
          (((readStringRest t'.rest).mapValue some).after t').after t
        else if t'.value = '\x7d' then .error .trailingComma
        else .error .keyMustBeString
    else .error .expectedObjectEnd

/-- The colon after a key. -/
def readColon (input : List Char) : Answer Unit input :=
  match nextToken input with
  | none => .error (.endOfText .object)
  | some t => if t.value = ':' then .ok ⟨(), t.rest, t.shorter⟩ else .error .expectedColon

/-- The value of a key: what it makes of the structure, or nothing if the key is no member. -/
def readMember (member? : Option (Member σ)) (input : List Char) :
    Except Failure (Taken (σ → σ) input) :=
  match member? with
  | some member => (member.read input).map Parsed.toTaken
  | none => (skipValue input).map fun t => { t with value := id }

/-- The members of a structure written as an object, up to its end; `seen` are the members read
already. -/
def readMembers (members : List (Member σ)) (seen : List String) (isFirst : Bool) (value : σ)
    (input : List Char) : Answer σ input :=
  match nextKey isFirst input with
  | .error e => .error e
  | .ok ⟨none, rest, shorter⟩ =>
    match members.find? fun m => m.isRequired && m.name ∉ seen with
    | some m => .error (.missingField m.name)
    | none => .ok ⟨value, rest, shorter⟩
  | .ok ⟨some key, rest, shorter⟩ =>
    if key ∈ seen then .error (.duplicateField key)
    else
      match readColon rest with
      | .error e => .error e
      | .ok colon =>
        let member? := members.find? (·.name = key)
        match readMember member? colon.rest with
        | .error e => .error e
        | .ok t =>
          have : t.rest.length < input.length :=
            Nat.lt_of_le_of_lt t.noLonger (Nat.lt_trans colon.shorter shorter)
          (readMembers members (if member?.isSome then key :: seen else seen) false (t.value value)
            t.rest).widen (Nat.le_of_lt this)
termination_by input.length

/-- A structure called `name`, with its members and their initial values. -/
def readStructure (name : String) (members : List (Member σ)) (initial : σ) : Reader σ :=
  token fun c rest =>
    if c = '[' then
      let expected :=
        "struct " ++ name ++ " with " ++ toString members.length ++
          (if members.length = 1 then " element" else " elements")
      (readPositional expected initial 0 members rest).afterChar c
    else if c = '\x7b' then (readMembers members [] true initial rest).afterChar c
    else .error (wrongType ("struct " ++ name) c rest)

/-! ## Names out of a list -/

/-- The value that goes by a name. -/
def variant (known : List (String × α)) (name : String) : Except Failure α :=
  match known.find? (·.1 = name) with
  | some (_, value) => .ok value
  | none => .error (.unknownVariant name (known.map (·.1)))

/-- The name that is the only key of an object, after the brace that opens it. -/
def readVariantName (input : List Char) : Answer String input :=
  match nextToken input with
  | none => .error (.endOfText .object)
  | some t =>
    if t.value = '"' then (readStringRest t.rest).after t
    else if t.value = '\x7d' then .error .expectedValue
    else .error .keyMustBeString

/-- `null`, which says that a name has nothing with it. -/
def readNothing : Reader Unit :=
  token fun c rest =>
    if c = 'n' then readWord "ull" () rest
    else .error (wrongType "unit" c rest)

/-- The end of an object that holds one name. -/
def closeVariant (input : List Char) : Answer Unit input :=
  match nextToken input with
  | none => .error (.endOfText .object)
  | some t => if t.value = '\x7d' then .ok ⟨(), t.rest, t.shorter⟩ else .error .expectedValue

/-- A name as the only key of an object, after the brace that opens it. -/
def readVariantObject (known : List (String × α)) : Reader α := fun input => do
  let name ← (readVariantName input).check (variant known)
  let colon ← readColon name.rest
  let nothing ← readNothing colon.rest
  let closed ← closeVariant nothing.rest
  return ⟨name.value, closed.rest,
    Nat.lt_trans (Nat.lt_trans closed.shorter nothing.shorter)
      (Nat.lt_trans colon.shorter name.shorter)⟩

/-- One of the known names, as a string or as the key of an object with nothing in it. -/
def readVariant (known : List (String × α)) : Reader α :=
  token fun c rest =>
    if c = '"' then ((readStringRest rest).check (variant known)).afterChar c
    else if c = '\x7b' then (readVariantObject known rest).afterChar c
    else .error .expectedValue

/-! ## Whole texts -/

/-- The value that a whole text writes. -/
def readAll (reader : Reader α) (text : String) : Except Failure α :=
  match reader text.toList with
  | .error e => .error e
  | .ok p =>
    match nextToken p.rest with
    | none => .ok p.value
    | some _ => .error .trailingCharacters

end Registrar.Json
