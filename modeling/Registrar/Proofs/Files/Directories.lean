import Registrar.Files.Store
import Registrar.Proofs.Lists

/-!
# Directories that are created

Creating directories adds directories where nothing was and changes no file. More directories let
more paths be followed, and those that could be followed lead where they led before. So a directory
that was created once is there from then on, and creating it once more does nothing.

* `KeepsDirectories.resolve` : paths keep leading to their places.
* `extends_createDirectories` : creating directories adds directories and nothing else.
* `createDirectories_again` : what was created need not be created again.
-/

namespace Registrar

/-! ## §1 — the last part of a path -/

/-- After the part that a path ends in come slashes only. -/
theorem Path.parts_of_last? {path name : String} {before : List String}
    (h : Path.last? path = some (before, name)) :
    name ≠ "" ∧ ∃ slashes, Path.parts path = before ++ name :: List.replicate slashes "" := by
  unfold Path.last? at h
  generalize hback : (Path.parts path).reverse = back at h
  have hsplit : back.takeWhile (· = "") ++ back.dropWhile (· = "") = back :=
    List.takeWhile_append_dropWhile
  have hempty : ∀ part ∈ back.takeWhile (· = ""), part = "" := by
    intro part hpart
    simpa using List.all_eq_true.mp List.all_takeWhile part hpart
  have hhead := List.head?_dropWhile_not (· = "") back
  -- from the back, empty parts come first; the part after them is the last one with characters
  cases hrest : back.dropWhile (· = "") with
  | nil =>
    rw [hrest] at h
    exact absurd h (by simp)
  | cons last front =>
    rw [hrest] at h hsplit hhead
    obtain ⟨rfl, rfl⟩ := Prod.mk.inj (Option.some.inj h)
    refine ⟨by simpa using hhead, (back.takeWhile (· = "")).length, ?_⟩
    rw [List.eq_replicate_of_mem hempty] at hsplit
    have hparts := congrArg List.reverse (hback.trans hsplit.symm)
    simpa using hparts

/-! ## §2 — following paths -/

namespace FileStore

variable {store before middle after : FileStore} {place next : Place} {parts : List String}

theorem expectDirectory_eq_ok_iff :
    store.expectDirectory place = .ok () ↔ store.lookup place = some .directory := by
  unfold expectDirectory
  split <;> simp_all

/-- To follow a path is to follow its first parts and then the others from there. -/
theorem follow_append (front back : List String) :
    store.follow place (front ++ back) =
      store.follow place front >>= fun middle => store.follow middle back := by
  induction front generalizing place with
  | nil => rfl
  | cons part front ih =>
    show store.step place part >>= _ = (store.step place part >>= _) >>= _
    cases store.step place part with
    | error cause => rfl
    | ok middle => exact ih

theorem follow_singleton (part : String) : store.follow place [part] = store.step place part := by
  show store.step place part >>= _ = _
  cases store.step place part <;> rfl

/-- Slashes lead nowhere, as long as they come after a directory. -/
theorem follow_slashes (h : store.lookup place = some .directory) (slashes : Nat) :
    store.follow place (List.replicate slashes "") = .ok place := by
  have hstep : store.step place "" = .ok place := by
    rw [step, expectDirectory_eq_ok_iff.mpr h]
    rfl
  induction slashes with
  | zero => rfl
  | succ slashes ih =>
    rw [List.replicate_succ, follow, hstep]
    exact ih

/-- Where they are followed at all, they end where they began. -/
theorem eq_of_follow_slashes {slashes : Nat}
    (h : store.follow place (List.replicate slashes "") = .ok next) : place = next := by
  induction slashes with
  | zero => exact Except.ok.inj h
  | succ slashes ih =>
    obtain ⟨middle, hstep, hfollow⟩ := bind_eq_ok_iff.mp h
    -- an empty part only asks for a directory
    obtain ⟨_, -, hplace⟩ := bind_eq_ok_iff.mp hstep
    obtain rfl : place = middle := Except.ok.inj hplace
    exact ih hfollow

/-- The directories of one store are directories in another one. -/
def KeepsDirectories (before after : FileStore) : Prop :=
  ∀ place, before.lookup place = some .directory → after.lookup place = some .directory

namespace KeepsDirectories

theorem trans (h : KeepsDirectories before middle) (h' : KeepsDirectories middle after) :
    KeepsDirectories before after := fun place hplace => h' place (h place hplace)

/-- A step that could be made from a directory can be made from it still. -/
theorem step {part : String} (h : KeepsDirectories before after)
    (hstep : before.step place part = .ok next) : after.step place part = .ok next := by
  obtain ⟨_, hdirectory, hnext⟩ := bind_eq_ok_iff.mp hstep
  have hplace := h place (expectDirectory_eq_ok_iff.mp hdirectory)
  rw [FileStore.step, expectDirectory_eq_ok_iff.mpr hplace]
  exact hnext

/-- So can all of them, one after the other. -/
theorem follow (h : KeepsDirectories before after)
    (hfollow : before.follow place parts = .ok next) : after.follow place parts = .ok next := by
  induction parts generalizing place with
  | nil => exact hfollow
  | cons part parts ih =>
    obtain ⟨middle, hstep, hrest⟩ := bind_eq_ok_iff.mp hfollow
    rw [FileStore.follow, h.step hstep]
    exact ih hrest

/-- **Paths keep leading to their places.** -/
theorem resolve {path : String} (h : KeepsDirectories before after)
    (hresolve : before.resolve path = .ok place) : after.resolve path = .ok place := by
  obtain ⟨_, haccept, hfollow⟩ := bind_eq_ok_iff.mp hresolve
  rw [FileStore.resolve, haccept]
  exact h.follow hfollow

end KeepsDirectories

/-! ## §3 — one directory -/

/-- The bytes of the file at a place, if a file is there. -/
def content? (store : FileStore) (place : Place) : Option ByteArray :=
  match store.lookup place with
  | some (.file content) => some content
  | _ => none

/-- A store with the files of another one and its directories, and perhaps more directories. -/
structure Extends (before after : FileStore) : Prop where
  content? : ∀ place, after.content? place = before.content? place
  directories : KeepsDirectories before after

theorem Extends.refl (store : FileStore) : Extends store store := ⟨fun _ => rfl, fun _ h => h⟩

theorem Extends.trans (h : Extends before middle) (h' : Extends middle after) :
    Extends before after :=
  ⟨fun place => (h'.content? place).trans (h.content? place),
    h.directories.trans h'.directories⟩

/-- The directories that are always there are never missing. -/
theorem isFixed_of_lookup_eq_none (h : store.lookup place = none) : place.isFixed = false := by
  cases hfixed : place.isFixed with
  | false => rfl
  | true =>
    rw [lookup, if_pos hfixed] at h
    cases h

/-- A directory at a free place extends the store. -/
theorem extends_set_directory (h : store.lookup place = none) :
    Extends store (store.set place .directory) := by
  -- the fixed places are never free
  have hfixed := isFixed_of_lookup_eq_none h
  refine ⟨fun other => ?_, fun other hother => ?_⟩
  · by_cases heq : other = place
    · rw [heq, content?, content?, lookup_set_self hfixed, h]
    · rw [content?, content?, lookup_set_of_ne heq]
  · by_cases heq : other = place
    · rw [heq, lookup_set_self hfixed]
    · rw [lookup_set_of_ne heq, hother]

variable {path name : String} {directory : Place}

/-- A path is a directory if it leads to one. -/
theorem isDirectory_eq_true_iff :
    store.isDirectory path = true ↔
      ∃ place, store.resolve path = .ok place ∧ store.lookup place = some .directory := by
  unfold isDirectory
  cases hresolve : store.resolve path with
  | error cause => simp
  | ok place =>
    have hdirectory : store.expectDirectory place = .ok () ↔
        store.lookup place = some .directory := expectDirectory_eq_ok_iff
    cases hexpect : store.expectDirectory place with
    | error cause =>
      rw [hexpect] at hdirectory
      simpa [hexpect, Except.isOk, Except.toBool] using fun h => nomatch hdirectory.mpr h
    | ok _ =>
      rw [hexpect] at hdirectory
      simpa [hexpect, Except.isOk, Except.toBool] using hdirectory.mp rfl

/-- It stays one as long as directories stay. -/
theorem KeepsDirectories.isDirectory (h : KeepsDirectories before after)
    (hpath : before.isDirectory path = true) : after.isDirectory path = true := by
  obtain ⟨place, hresolve, hplace⟩ := isDirectory_eq_true_iff.mp hpath
  exact isDirectory_eq_true_iff.mpr ⟨place, h.resolve hresolve, h place hplace⟩

/-- What has to hold for a path to make `name` in a directory. -/
theorem destination_eq_some_iff :
    store.destination path = .ok (some (directory, name)) ↔
      accept path = .ok () ∧ Path.isDots name = false ∧
        ∃ front, Path.last? path = some (front, name) ∧
          store.follow (Place.start path) front = .ok directory ∧
          store.lookup directory = some .directory := by
  constructor
  · intro h
    obtain ⟨_, haccept, hlast⟩ := bind_eq_ok_iff.mp h
    refine ⟨haccept, ?_⟩
    cases hparts : Path.last? path with
    | none =>
      rw [hparts] at hlast
      exact nomatch Except.ok.inj hlast
    | some pair =>
      obtain ⟨front, last⟩ := pair
      rw [hparts] at hlast
      obtain ⟨place, hfollow, hrest⟩ := bind_eq_ok_iff.mp hlast
      obtain ⟨_, hexpect, hname⟩ := bind_eq_ok_iff.mp hrest
      have hname := Except.ok.inj hname
      split at hname
      · exact nomatch hname
      · next hdots =>
        obtain ⟨rfl, rfl⟩ := Prod.mk.inj (Option.some.inj hname)
        exact ⟨by simpa using hdots, front, rfl, hfollow, expectDirectory_eq_ok_iff.mp hexpect⟩
  · rintro ⟨haccept, hdots, front, hlast, hfollow, hdirectory⟩
    rw [destination, haccept, hlast]
    show store.follow _ _ >>= _ = _
    rw [hfollow]
    show store.expectDirectory directory >>= _ = _
    rw [expectDirectory_eq_ok_iff.mpr hdirectory]
    show Except.ok (if Path.isDots name = true then none else some (directory, name)) = _
    rw [hdots]
    rfl

/-- In a directory a name leads to what it names. -/
theorem step_eq_inner (hdirectory : store.lookup directory = some .directory) (hname : name ≠ "")
    (hdots : Path.isDots name = false) : store.step directory name = directory.inner name := by
  have hdot : ¬ (name = "" ∨ name = ".") ∧ name ≠ ".." := by
    simp only [Path.isDots, Bool.or_eq_false_iff, decide_eq_false_iff_not] at hdots
    exact ⟨not_or.mpr ⟨hname, hdots.1⟩, hdots.2⟩
  rw [step, expectDirectory_eq_ok_iff.mpr hdirectory]
  show (if name = "" ∨ name = "." then _ else if name = ".." then _ else _) = _
  rw [if_neg hdot.1, if_neg hdot.2]

/-- A path that makes a name in a directory leads to what has this name there, slashes after it
aside. -/
theorem resolve_of_destination (h : store.destination path = .ok (some (directory, name))) :
    ∃ slashes, store.resolve path =
      directory.inner name >>= fun place => store.follow place (List.replicate slashes "") := by
  obtain ⟨haccept, hdots, front, hlast, hfollow, hdirectory⟩ := destination_eq_some_iff.mp h
  obtain ⟨hname, slashes, hparts⟩ := Path.parts_of_last? hlast
  refine ⟨slashes, ?_⟩
  rw [resolve, haccept]
  show store.follow _ (Path.parts path) = _
  rw [hparts, follow_append, hfollow]
  show store.step directory name >>= _ = _
  rw [step_eq_inner hdirectory hname hdots]

/-- A path that leads to a place ends in a directory that is there anyway, or makes what is at that
place. -/
theorem destination_of_resolve (h : store.resolve path = .ok place) :
    store.destination path = .ok none ∨ ∃ directory name,
      store.destination path = .ok (some (directory, name)) ∧ directory.inner name = .ok place := by
  obtain ⟨_, haccept, hfollow⟩ := bind_eq_ok_iff.mp h
  cases hlast : Path.last? path with
  | none =>
    rw [destination, haccept, hlast]
    exact Or.inl rfl
  | some pair =>
    obtain ⟨front, name⟩ := pair
    obtain ⟨hname, slashes, hparts⟩ := Path.parts_of_last? hlast
    rw [hparts, follow_append] at hfollow
    obtain ⟨directory, hfront, hrest⟩ := bind_eq_ok_iff.mp hfollow
    obtain ⟨next, hstep, hslashes⟩ := bind_eq_ok_iff.mp hrest
    obtain ⟨_, hexpect, -⟩ := bind_eq_ok_iff.mp hstep
    have hdirectory := expectDirectory_eq_ok_iff.mp hexpect
    obtain rfl : next = place := eq_of_follow_slashes hslashes
    -- a path that ends in dots leads to a directory that has another name
    cases hdots : Path.isDots name with
    | true =>
      left
      rw [destination, haccept, hlast]
      show store.follow _ _ >>= _ = _
      rw [hfront]
      show store.expectDirectory directory >>= _ = _
      rw [hexpect]
      show Except.ok (if Path.isDots name = true then none else some (directory, name)) = _
      rw [hdots]
      rfl
    | false =>
      rw [step_eq_inner hdirectory hname hdots] at hstep
      exact Or.inr ⟨directory, name,
        destination_eq_some_iff.mpr ⟨haccept, hdots, front, hlast, hfront, hdirectory⟩, hstep⟩

/-- What a path would make, it would make in a store with more directories, too. -/
theorem KeepsDirectories.destination (h : KeepsDirectories before after)
    (hpath : before.destination path = .ok (some (directory, name))) :
    after.destination path = .ok (some (directory, name)) := by
  obtain ⟨haccept, hdots, front, hlast, hfollow, hdirectory⟩ := destination_eq_some_iff.mp hpath
  exact destination_eq_some_iff.mpr
    ⟨haccept, hdots, front, hlast, h.follow hfollow, h directory hdirectory⟩

/-- Creating a directory adds it, and nothing else. -/
theorem extends_createDirectory (h : store.createDirectory path = .ok after) :
    Extends store after ∧ after.isDirectory path = true := by
  obtain ⟨destination, hdestination, hcreate⟩ := bind_eq_ok_iff.mp h
  cases destination with
  | none => exact nomatch hcreate
  | some pair =>
    obtain ⟨directory, name⟩ := pair
    obtain ⟨place, hinner, hplace⟩ := bind_eq_ok_iff.mp hcreate
    -- the place is free, or there is nothing to create
    cases hlookup : store.lookup place with
    | some entry =>
      rw [hlookup] at hplace
      exact nomatch hplace
    | none =>
      rw [hlookup] at hplace
      obtain rfl : store.set place .directory = after := Except.ok.inj hplace
      have hextends := extends_set_directory hlookup
      refine ⟨hextends, isDirectory_eq_true_iff.mpr ⟨place, ?_, ?_⟩⟩
      · obtain ⟨slashes, hresolve⟩ :=
          resolve_of_destination (hextends.directories.destination hdestination)
        rw [hresolve, hinner]
        exact follow_slashes (lookup_set_self (isFixed_of_lookup_eq_none hlookup)) slashes
      · exact lookup_set_self (isFixed_of_lookup_eq_none hlookup)

/-- **A directory cannot be created where one is there.** -/
theorem createDirectory_of_isDirectory (h : store.isDirectory path = true) :
    store.createDirectory path = .error .alreadyExists := by
  obtain ⟨place, hresolve, hplace⟩ := isDirectory_eq_true_iff.mp h
  rcases destination_of_resolve hresolve with hnone | ⟨directory, name, hsome, hinner⟩
  · rw [createDirectory, hnone]
    rfl
  · rw [createDirectory, hsome]
    show directory.inner name >>= _ = _
    rw [hinner]
    simp only [bind, Except.bind, hplace]
    rfl

/-! ## §4 — chains of directories -/

open FileSystem

variable {result : Except FileFailure Unit} {paths : List String}

/-- To ensure a directory is to create it, unless it is there already. -/
theorem run_ensureDirectory (path : String) (store : FileStore) :
    (ensureDirectory path : StateM FileStore _).run store =
      match store.createDirectory path with
      | .ok after => (.ok (), after)
      | .error cause =>
        if cause = .alreadyExists ∧ store.isDirectory path = true then (.ok (), store)
        else (.error cause, store) := by
  show (ensureDirectory path : StateM FileStore _) store = _
  simp only [ensureDirectory, FileSystem.createDirectory, bind, StateT.bind, update]
  cases store.createDirectory path with
  | ok after => rfl
  | error cause =>
    -- the one failure that is looked into
    by_cases hexists : cause = .alreadyExists
    · cases hpath : store.isDirectory path <;>
        simp [hexists, hpath, FileSystem.isDirectory, bind, StateT.bind] <;> rfl
    · simp [hexists]
      rfl

/-- **One directory.** Whether it succeeds or not, nothing else is changed; if it does, the path is
a directory. -/
theorem extends_ensureDirectory
    (h : (ensureDirectory path : StateM FileStore _).run store = (result, after)) :
    Extends store after ∧ (result = .ok () → after.isDirectory path = true) := by
  rw [run_ensureDirectory] at h
  cases hcreate : store.createDirectory path with
  | ok created =>
    rw [hcreate] at h
    obtain ⟨rfl, rfl⟩ := Prod.mk.inj h
    obtain ⟨hextends, hdirectory⟩ := extends_createDirectory hcreate
    exact ⟨hextends, fun _ => hdirectory⟩
  | error cause =>
    rw [hcreate] at h
    dsimp only at h
    split at h
    · next hexists =>
      obtain ⟨rfl, rfl⟩ := Prod.mk.inj h
      exact ⟨.refl store, fun _ => hexists.2⟩
    · obtain ⟨rfl, rfl⟩ := Prod.mk.inj h
      exact ⟨.refl store, fun hok => nomatch hok⟩

theorem ensureDirectory_of_isDirectory (h : store.isDirectory path = true) :
    (ensureDirectory path : StateM FileStore _).run store = (.ok (), store) := by
  rw [run_ensureDirectory, createDirectory_of_isDirectory h]
  exact if_pos ⟨rfl, h⟩

/-- A directory whose place cannot be found is created after those around it. -/
theorem run_ensureChain_cons (path : String) (outer : List String) (store : FileStore) :
    (ensureChain (path :: outer) : StateM FileStore _).run store =
      match (ensureDirectory path : StateM FileStore _).run store with
      | (.error .notFound, middle) =>
        match (ensureChain outer : StateM FileStore _).run middle with
        | (.ok (), prepared) => (ensureDirectory path : StateM FileStore _).run prepared
        | (.error cause, prepared) => (.error cause, prepared)
      | (result, middle) => (result, middle) := by
  show (ensureChain (path :: outer) : StateM FileStore _) store = _
  simp only [ensureChain, bind, StateT.bind, StateT.run]
  generalize (ensureDirectory path : StateM FileStore _) store = first
  obtain ⟨result, middle⟩ := first
  cases result with
  | ok _ => rfl
  | error cause =>
    cases cause with
    | notFound =>
      simp only [StateT.bind, bind]
      generalize (ensureChain outer : StateM FileStore _) middle = second
      obtain ⟨result, prepared⟩ := second
      cases result <;> rfl
    | _ => rfl

/-- **Creating directories adds directories and nothing else**, also when it fails half-way. -/
theorem extends_ensureChain
    (h : (ensureChain paths : StateM FileStore _).run store = (result, after)) :
    Extends store after ∧
      (result = .ok () → ∀ path ∈ paths.head?, after.isDirectory path = true) := by
  induction paths generalizing store result after with
  | nil =>
    obtain ⟨rfl, rfl⟩ := Prod.mk.inj (show (Except.ok (), store) = (result, after) from h)
    exact ⟨.refl store, fun _ path hpath => nomatch hpath⟩
  | cons path outer ih =>
    rw [run_ensureChain_cons] at h
    rw [List.head?_cons]
    split at h
    · next middle hfirst =>
      -- the directory around it is missing, so that is created first
      obtain ⟨hmiddle, -⟩ := extends_ensureDirectory hfirst
      split at h
      · next prepared hchain =>
        obtain ⟨hprepared, -⟩ := ih hchain
        obtain ⟨hafter, hdirectory⟩ := extends_ensureDirectory h
        refine ⟨(hmiddle.trans hprepared).trans hafter, fun hok other hother => ?_⟩
        obtain rfl := Option.some.inj hother
        exact hdirectory hok
      · next cause prepared hchain =>
        obtain ⟨hprepared, -⟩ := ih hchain
        obtain ⟨rfl, rfl⟩ := Prod.mk.inj h
        exact ⟨hmiddle.trans hprepared, fun hok => nomatch hok⟩
    · next first middle _ hfirst =>
      obtain ⟨rfl, rfl⟩ := Prod.mk.inj h
      obtain ⟨hextends, hdirectory⟩ := extends_ensureDirectory hfirst
      refine ⟨hextends, fun hok other hother => ?_⟩
      obtain rfl := Option.some.inj hother
      exact hdirectory hok

theorem extends_createDirectories
    (h : (createDirectories path : StateM FileStore _).run store = (result, after)) :
    Extends store after := (extends_ensureChain h).1

/-- **What was created need not be created again**, as long as the directories stay. -/
theorem createDirectories_again
    (h : (createDirectories path : StateM FileStore _).run store = (.ok (), middle))
    (hkeeps : KeepsDirectories middle after) :
    (createDirectories path : StateM FileStore _).run after = (.ok (), after) := by
  have hdirectory := (extends_ensureChain h).2 rfl
  unfold createDirectories at h ⊢
  -- the chain starts with the directory itself, so the first look ends it
  cases hchain : Path.chain path with
  | nil => rfl
  | cons first outer =>
    rw [hchain] at hdirectory
    have hfirst := hkeeps.isDirectory (hdirectory first rfl)
    rw [run_ensureChain_cons, ensureDirectory_of_isDirectory hfirst]

end FileStore

end Registrar
