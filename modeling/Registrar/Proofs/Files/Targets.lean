import Mathlib.Data.List.Basic
import Registrar.Proofs.Files.Directories

/-!
# Files in a directory

A file in a directory has the path of the directory with its name after it. Files of different names
are at different places, whatever the path of the directory is, so writing one of them changes none
of the others; and what was written is read back.

* `eq_of_resolve_join` : the places of files in a directory tell their names.
* `write_join` : writing a file puts it where its path leads.
* `readText_eq_ok_iff` : what is read is the text of the file where the path leads.
-/

namespace Registrar

/-- A name that a file in a directory can have. -/
structure IsFileName (name : String) : Prop where
  ne_empty : name ≠ ""
  no_slash : '/' ∉ name.toList
  not_dots : Path.isDots name = false

/-! ## §1 — the path of a file -/

namespace Path

variable {directory name : String}

/-- The name of a file is a path with one part. -/
theorem parts_of_isFileName (hname : IsFileName name) : parts name = [name] := by
  have hword : ∀ c ∈ name.toList, decide (c = '/') = false := by
    intro c hc
    have hne : c ≠ '/' := fun heq => hname.no_slash (heq ▸ hc)
    simpa using hne
  rw [parts, Text.splitWhere_of_none hword]
  simp

/-- After a slash it is one part more. -/
theorem parts_append_slash (front : String) (hname : IsFileName name) :
    parts (front ++ "/" ++ name) = parts front ++ [name] := by
  have hchars : (front ++ "/" ++ name).toList = front.toList ++ '/' :: name.toList := by simp
  rw [parts, hchars, Text.splitWhere_append_cons (by simp), List.map_append]
  exact congrArg (parts front ++ ·) (parts_of_isFileName hname)

/-- A path that ends in a slash is a path with a slash after it. -/
theorem exists_of_endsInSlash (h : endsInSlash directory = true) :
    ∃ front : String, directory = front ++ "/" := by
  have hlast : directory.toList.getLast? = some '/' := by simpa [endsInSlash] using h
  obtain ⟨front, hfront⟩ := List.getLast?_eq_some_iff.mp hlast
  refine ⟨String.ofList front, ?_⟩
  rw [← String.toList_inj, hfront]
  simp

/-- The parts before the name of a file in a directory do not depend on the name. -/
theorem exists_parts_join (directory : String) :
    ∃ front, ∀ name, IsFileName name → parts (join directory name) = front ++ [name] := by
  -- no directory, one with a slash at its end, and any other one
  by_cases hempty : directory = ""
  · refine ⟨[], fun name hname => ?_⟩
    rw [join, if_pos (Or.inl hempty), hempty, String.empty_append, parts_of_isFileName hname]
    rfl
  · by_cases hslash : endsInSlash directory = true
    · obtain ⟨front, rfl⟩ := exists_of_endsInSlash hslash
      refine ⟨parts front, fun name hname => ?_⟩
      rw [join, if_pos (Or.inr hslash), parts_append_slash front hname]
    · refine ⟨parts directory, fun name hname => ?_⟩
      rw [join, if_neg (not_or.mpr ⟨hempty, hslash⟩), parts_append_slash directory hname]

/-- The path of a file does not end in a slash, whatever the directory is. -/
theorem endsInSlash_join (hname : IsFileName name) : endsInSlash (join directory name) = false := by
  have hne : name.toList ≠ [] := by simpa using hname.ne_empty
  have hlast : name.toList.getLast? ≠ some '/' := fun h =>
    hname.no_slash (List.mem_of_getLast? h)
  have happend : ∀ text : String, endsInSlash (text ++ name) = false := by
    intro text
    rw [endsInSlash, String.toList_append, List.getLast?_append_of_ne_nil _ hne]
    simpa using hlast
  rw [join]
  split
  · exact happend _
  · exact happend _

/-- The last part of the path of a file is its name. -/
theorem last?_join {front : List String} (hname : IsFileName name)
    (hparts : parts (join directory name) = front ++ [name]) :
    last? (join directory name) = some (front, name) := by
  rw [last?, hparts, List.reverse_append, List.reverse_singleton, List.singleton_append,
    List.dropWhile_cons_of_neg (by simpa using hname.ne_empty)]
  show some (front.reverse.reverse, name) = _
  rw [List.reverse_reverse]

end Path

/-! ## §2 — the place of a file -/

namespace FileStore

variable {store before after : FileStore} {place : Place} {directory name name' : String}
  {content : ByteArray}

/-- The place of a file is in a directory that is there. -/
theorem exists_of_resolve_join (hname : IsFileName name)
    (h : store.resolve (Path.join directory name) = .ok place) :
    ∃ outer, place = outer ++ [name] := by
  obtain ⟨front, hfront⟩ := Path.exists_parts_join directory
  obtain ⟨_, -, hfollow⟩ := bind_eq_ok_iff.mp h
  rw [hfront name hname, follow_append] at hfollow
  obtain ⟨outer, -, hlast⟩ := bind_eq_ok_iff.mp hfollow
  rw [follow_singleton] at hlast
  obtain ⟨_, hexpect, -⟩ := bind_eq_ok_iff.mp hlast
  rw [step_eq_inner (expectDirectory_eq_ok_iff.mp hexpect) hname.ne_empty hname.not_dots] at hlast
  refine ⟨outer, ?_⟩
  unfold Place.inner at hlast
  split at hlast
  · exact nomatch hlast
  · exact (Except.ok.inj hlast).symm

/-- **The places of files in a directory tell their names**, even in different states. -/
theorem eq_of_resolve_join (hname : IsFileName name) (hname' : IsFileName name')
    (h : before.resolve (Path.join directory name) = .ok place)
    (h' : after.resolve (Path.join directory name') = .ok place) : name = name' := by
  obtain ⟨outer, rfl⟩ := exists_of_resolve_join hname h
  obtain ⟨outer', heq⟩ := exists_of_resolve_join hname' h'
  exact List.singleton_injective (List.append_inj' heq rfl).2

/-- A file is neither around the working directory nor the root. -/
theorem isFixed_of_resolve_join (hname : IsFileName name)
    (h : store.resolve (Path.join directory name) = .ok place) : place.isFixed = false := by
  obtain ⟨outer, rfl⟩ := exists_of_resolve_join hname h
  have hdots : name ≠ ".." := by
    rintro rfl
    exact absurd hname.not_dots (by decide)
  -- the root has a slash for a name, and no file has
  have hroot : outer ++ [name] ≠ ["/"] := by
    intro heq
    have hlast := congrArg List.getLast? heq
    rw [List.getLast?_concat] at hlast
    obtain rfl : name = "/" := Option.some.inj hlast
    exact hname.no_slash (by decide)
  simp [Place.isFixed, Place.isAround, hdots, hroot]

/-! ## §3 — writing and reading -/

/-- **Writing a file puts it where its path leads**, unless a directory is there. -/
theorem write_join (store : FileStore) (hname : IsFileName name) (content : ByteArray) :
    store.write (Path.join directory name) content =
      store.resolve (Path.join directory name) >>= fun place =>
        match store.lookup place with
        | some .directory => .error .isDirectory
        | _ => .ok (store.set place (.file content)) := by
  obtain ⟨front, hfront⟩ := Path.exists_parts_join directory
  have hparts := hfront name hname
  rw [write, destination, resolve, Path.last?_join hname hparts, Path.endsInSlash_join hname,
    hparts]
  -- writing and resolving go the same way, step by step, and fail at the same one
  cases accept (Path.join directory name) with
  | error cause => rfl
  | ok _ =>
    show (store.follow _ front >>= _) >>= _ = store.follow _ (front ++ [name]) >>= _
    rw [follow_append]
    cases store.follow (Place.start (Path.join directory name)) front with
    | error cause => rfl
    | ok outer =>
      show (store.expectDirectory outer >>= _) >>= _ = store.follow outer [name] >>= _
      rw [follow_singleton]
      cases hexpect : store.expectDirectory outer with
      | error cause =>
        rw [step, hexpect]
        rfl
      | ok _ =>
        rw [step_eq_inner (expectDirectory_eq_ok_iff.mp hexpect) hname.ne_empty hname.not_dots]
        show Except.ok (if Path.isDots name = true then none else some (outer, name)) >>= _ = _
        rw [hname.not_dots]
        rfl

/-- A file with this content was put at a place, and the other files and the directories are as they
were. -/
structure Puts (before after : FileStore) (place : Place) (content : ByteArray) : Prop where
  content? : after.content? place = some content
  others : ∀ other, other ≠ place → after.content? other = before.content? other
  directories : KeepsDirectories before after

theorem puts_self (h : store.content? place = some content) : Puts store store place content :=
  ⟨h, fun _ _ => rfl, fun _ hplace => hplace⟩

/-- **A file that was written is where its path leads**, and nothing else was changed. -/
theorem puts_of_write (hname : IsFileName name)
    (h : store.write (Path.join directory name) content = .ok after) :
    ∃ place, store.resolve (Path.join directory name) = .ok place ∧
      Puts store after place content := by
  rw [write_join store hname content] at h
  obtain ⟨place, hresolve, hset⟩ := bind_eq_ok_iff.mp h
  have hfixed := isFixed_of_resolve_join hname hresolve
  refine ⟨place, hresolve, ?_⟩
  split at hset
  · exact nomatch hset
  · next hlookup =>
    obtain rfl : store.set place (.file content) = after := Except.ok.inj hset
    -- the file, the other files and the directories
    refine ⟨?_, fun other hother => ?_, fun other hother => ?_⟩
    · rw [FileStore.content?, lookup_set_self hfixed]
    · rw [FileStore.content?, FileStore.content?, lookup_set_of_ne hother]
    · have hne : other ≠ place := fun heq => hlookup (heq ▸ hother)
      rw [lookup_set_of_ne hne, hother]

/-- A text is decoded from its own bytes and from no others. -/
theorem fromUTF8?_eq_some_iff {bytes : ByteArray} {text : String} :
    String.fromUTF8? bytes = some text ↔ bytes = text.toUTF8 := by
  unfold String.fromUTF8?
  constructor
  · intro h
    split at h
    · obtain rfl := Option.some.inj h
      rfl
    · exact nomatch h
  · rintro rfl
    have hvalid : text.toUTF8.IsValidUTF8 := text.isValidUTF8
    rw [dif_pos hvalid]
    rfl

/-- **What is read is the text of the file where the path leads.** -/
theorem readText_eq_ok_iff {path text : String} :
    store.readText path = .ok text ↔
      ∃ place, store.resolve path = .ok place ∧ store.content? place = some text.toUTF8 := by
  constructor
  · intro h
    obtain ⟨bytes, hread, htext⟩ := bind_eq_ok_iff.mp h
    obtain ⟨place, hresolve, hplace⟩ := bind_eq_ok_iff.mp hread
    refine ⟨place, hresolve, ?_⟩
    -- only a file can be read, and only if its bytes are a text
    cases hlookup : store.lookup place with
    | none =>
      rw [hlookup] at hplace
      cases hplace
    | some entry =>
      rw [hlookup] at hplace
      cases entry with
      | directory => cases hplace
      | file content =>
        obtain rfl : content = bytes := Except.ok.inj hplace
        cases hdecode : String.fromUTF8? content with
        | none =>
          rw [hdecode] at htext
          cases htext
        | some decoded =>
          rw [hdecode] at htext
          obtain rfl : decoded = text := Except.ok.inj htext
          rw [FileStore.content?, hlookup, fromUTF8?_eq_some_iff.mp hdecode]
  · rintro ⟨place, hresolve, hcontent⟩
    unfold FileStore.content? at hcontent
    split at hcontent
    · next content hlookup =>
      obtain rfl := Option.some.inj hcontent
      have hread : store.read path = .ok text.toUTF8 := by
        rw [read, hresolve]
        simp only [bind, Except.bind, hlookup]
        rfl
      rw [readText, hread]
      simp only [bind, Except.bind, fromUTF8?_eq_some_iff.mpr rfl]
      rfl
    · cases hcontent

end FileStore

end Registrar
