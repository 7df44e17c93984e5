import Registrar.Files.Basic

/-!
# A file system as a value

A store maps places to files and directories. It answers requests the way a file system does: a path
is followed part by part, and every part but the last one has to be a directory. The working
directory, those that it is in, and the root are always there; all else is created.

* `lookup_set_self`, `lookup_set_of_ne` : what a change changes.
-/

namespace Registrar

/-- A place, as the names on the way to it from the working directory. A place outside of it starts
with as many `..` as lead out of it, or with a slash that stands for the root. -/
abbrev Place := List String

namespace Place

/-- Where a path is followed from. -/
def start (path : String) : Place := if Path.isRooted path then ["/"] else []

/-- The working directory, or one that it is in. -/
def isAround (place : Place) : Bool := place.all (· = "..")

/-- A directory that is always there. -/
def isFixed (place : Place) : Bool := place.isAround || place = ["/"]

/-- A place in the working directory, at any depth. -/
def isInside (place : Place) : Bool := place.head? ≠ some ".." && place.head? ≠ some "/"

/-- The directory that a place is in; the root is in itself. -/
def outer (place : Place) : Place :=
  if place.isAround then place ++ [".."] else if place.isFixed then place else place.dropLast

/-- The place called `name` in a directory. Names have at most 255 bytes. -/
def inner (place : Place) (name : String) : Except FileFailure Place :=
  if 255 < name.utf8ByteSize then .error .nameTooLong else .ok (place ++ [name])

end Place

/-- What is at a place. -/
inductive Entry where
  | file (content : ByteArray)
  | directory

/-- The files and directories that were created. -/
structure FileStore where
  entries : List (Place × Entry) := []

namespace FileStore

def lookup (store : FileStore) (place : Place) : Option Entry :=
  if place.isFixed then some .directory else store.entries.lookup place

def replace (place : Place) (entry : Entry) : List (Place × Entry) → List (Place × Entry)
  | [] => [(place, entry)]
  | first :: rest =>
    if first.1 = place then (place, entry) :: rest else first :: replace place entry rest

def set (store : FileStore) (place : Place) (entry : Entry) : FileStore :=
  ⟨replace place entry store.entries⟩

/-! ## Following paths -/

def expectDirectory (store : FileStore) (place : Place) : Except FileFailure Unit :=
  match store.lookup place with
  | none => .error .notFound
  | some (.file _) => .error .notDirectory
  | some .directory => .ok ()

/-- Follow one part of a path. -/
def step (store : FileStore) (place : Place) (part : String) : Except FileFailure Place := do
  store.expectDirectory place
  if part = "" ∨ part = "." then return place
  else if part = ".." then return place.outer
  else place.inner part

/-- Follow the parts of a path from a place. -/
def follow (store : FileStore) (place : Place) : List String → Except FileFailure Place
  | [] => .ok place
  | part :: rest => do
    let next ← store.step place part
    store.follow next rest

/-- What has to hold of a path as a whole before it is followed. Paths have at most 4095 bytes. -/
def accept (path : String) : Except FileFailure Unit :=
  if '\x00' ∈ path.toList then .error .containsNul
  else if path = "" then .error .notFound
  else if 4095 < path.utf8ByteSize then .error .nameTooLong
  else .ok ()

def resolve (store : FileStore) (path : String) : Except FileFailure Place := do
  accept path
  store.follow (Place.start path) (Path.parts path)

/-- The directory in which a path makes something, and the name of what it makes there; nothing if
the path ends in a directory that is there anyway. -/
def destination (store : FileStore) (path : String) :
    Except FileFailure (Option (Place × String)) := do
  accept path
  match Path.last? path with
  | none => return none
  | some (before, name) =>
    let place ← store.follow (Place.start path) before
    store.expectDirectory place
    return if Path.isDots name then none else some (place, name)

/-! ## Requests -/

def read (store : FileStore) (path : String) : Except FileFailure ByteArray := do
  match store.lookup (← store.resolve path) with
  | none => throw .notFound
  | some .directory => throw .isDirectory
  | some (.file content) => return content

def readText (store : FileStore) (path : String) : Except FileFailure String := do
  match String.fromUTF8? (← store.read path) with
  | some text => return text
  | none => throw .notText

/-- Make `content` all that is in the file that a path leads to. A slash at the end asks for a
directory. -/
def write (store : FileStore) (path : String) (content : ByteArray) :
    Except FileFailure FileStore := do
  match ← store.destination path with
  | none => throw .isDirectory
  | some (directory, name) =>
    if Path.endsInSlash path then throw .isDirectory
    let place ← directory.inner name
    match store.lookup place with
    | some .directory => throw .isDirectory
    | _ => return store.set place (.file content)

/-- Create a directory in one that is there. -/
def createDirectory (store : FileStore) (path : String) : Except FileFailure FileStore := do
  match ← store.destination path with
  | none => throw .alreadyExists
  | some (directory, name) =>
    let place ← directory.inner name
    match store.lookup place with
    | some _ => throw .alreadyExists
    | none => return store.set place .directory

def isDirectory (store : FileStore) (path : String) : Bool :=
  match store.resolve path with
  | .error _ => false
  | .ok place => (store.expectDirectory place).isOk

/-- A request that changes a store, or leaves it as it is if it fails. -/
def update (request : FileStore → Except FileFailure FileStore) :
    StateM FileStore (Except FileFailure Unit) := fun store =>
  match request store with
  | .ok changed => (.ok (), changed)
  | .error cause => (.error cause, store)

instance : FileSystem (StateM FileStore) where
  readText path := fun store => (store.readText path, store)
  writeText path text := update (·.write path text.toUTF8)
  createDirectory path := update (·.createDirectory path)
  isDirectory path := fun store => (store.isDirectory path, store)

/-- Put a file into a store, in directories of its own where they are missing, as far as that can be
done. -/
def install (store : FileStore) (path : String) (content : ByteArray) : FileStore :=
  let prepare : StateM FileStore (Except FileFailure Unit) :=
    FileSystem.ensureChain (Path.chain path).tail
  let (_, prepared) := prepare.run store
  match prepared.write path content with
  | .ok written => written
  | .error _ => prepared

/-- The files in the working directory, each with its path. -/
def files (store : FileStore) : List (String × ByteArray) :=
  store.entries.filterMap fun (place, entry) =>
    match entry with
    | .file content => if place.isInside then some ("/".intercalate place, content) else none
    | .directory => none

/-! ## What a change changes -/

/-- What is put at a place is found there, unless the place is always a directory. -/
theorem lookup_set_self {store : FileStore} {place : Place} {entry : Entry} (h : place.isFixed = false) :
    (store.set place entry).lookup place = some entry := by
  have key : ∀ entries, (replace place entry entries).lookup place = some entry := by
    intro entries
    induction entries with
    | nil => simp [replace]
    | cons first rest ih =>
      obtain ⟨p, e⟩ := first
      by_cases hp : p = place
      · simp [replace, hp]
      · have : (place == p) = false := by simpa using fun e => hp e.symm
        simp [replace, hp, List.lookup_cons, this, ih]
  simp [lookup, h, set, key]

/-- What is put at a place is not found at any other. -/
theorem lookup_set_of_ne {store : FileStore} {place other : Place} {entry : Entry}
    (h : other ≠ place) : (store.set place entry).lookup other = store.lookup other := by
  have key : ∀ entries, (replace place entry entries).lookup other = entries.lookup other := by
    intro entries
    induction entries with
    | nil =>
      have : (other == place) = false := by simpa using h
      simp [replace, List.lookup_cons, this]
    | cons first rest ih =>
      obtain ⟨p, e⟩ := first
      by_cases hp : p = place
      · subst hp
        have : (other == p) = false := by simpa using h
        simp [replace, List.lookup_cons, this]
      · cases ho : other == p <;> simp [replace, hp, List.lookup_cons, ho, ih]
  simp [lookup, set, key]

end FileStore

end Registrar
