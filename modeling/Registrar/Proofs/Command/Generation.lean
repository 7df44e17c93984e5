import Registrar.Command.Actions
import Registrar.Proofs.Files.Targets

/-!
# What `generate` leaves behind

The files of a pass are installed one after the other, each at a place of its own, so no file
disturbs an earlier one. If a step fails, what was installed before stays and nothing else was
touched. What is in place is not written again, so a second run finds everything done.

* `Installed` : sources are in place, and all other files are as they were.
* `wasInPlace_iff_readText` : a source was in place if its text could be read there.
* `installAll_cases` : what installing a list of sources can come to.
* `generate_effect` : what `generate` does to the files.
* `generate_again` : what a second run does.
-/

namespace Registrar

/-! ## §1 — the files of a pass -/

/-- Sources that can be files of one directory. -/
structure AreFiles (sources : List Code.Source) : Prop where
  names : ∀ source ∈ sources, IsFileName source.hintName
  distinct : (sources.map (·.hintName)).Nodup

theorem AreFiles.tail {source : Code.Source} {sources : List Code.Source}
    (h : AreFiles (source :: sources)) : AreFiles sources :=
  ⟨fun other hother => h.names other (List.mem_cons_of_mem _ hother),
    (List.nodup_cons.mp h.distinct).2⟩

/-- A pass has its files under three different names. -/
theorem areFiles_generatedSources (config : Config) (descriptors : List Descriptor)
    (roots : List ScopeRoot) : AreFiles (generatedSources config descriptors roots) := by
  -- the second and the third file may be missing, in the order they never change
  have hsublist : ((generatedSources config descriptors roots).map (·.hintName)).Sublist
      [Code.attributesHint, Code.registrationsHint, Code.scopeLifecycleHint] := by
    unfold generatedSources Code.scopeLifecycle
    cases config.withAttributes <;> cases Code.distinctRoots roots <;>
      simp [Code.attributes, Code.registrations, Code.Source.ofScript]
  refine ⟨fun _ hsource => ?_, hsublist.nodup (by decide)⟩
  have hname := hsublist.subset (List.mem_map_of_mem hsource)
  simp only [List.mem_cons, List.not_mem_nil, or_false] at hname
  rcases hname with hname | hname | hname
  · rw [hname]
    exact ⟨by decide, by decide, by decide⟩
  · rw [hname]
    exact ⟨by decide, by decide, by decide⟩
  · rw [hname]
    exact ⟨by decide, by decide, by decide⟩

namespace Command

/-- The path of a generated file. -/
def target (directory : String) (source : Code.Source) : String :=
  Path.join directory source.hintName

/-- Sources are in place in a directory, and all other files are as they were before. -/
structure Installed (before after : FileStore) (directory : String) (sources : List Code.Source) :
    Prop where
  inPlace : ∀ source ∈ sources, ∃ place, after.resolve (target directory source) = .ok place ∧
    after.content? place = some source.text.toUTF8
  others : ∀ place,
    (∀ source ∈ sources, after.resolve (target directory source) ≠ .ok place) →
      after.content? place = before.content? place

/-- The contents of files are compared as the core library does it. -/
local instance decidableEqContent : DecidableEq ByteArray := ByteArray.instDecidableEq

/-- The place of a source held its text before. The directories on the way to it may be newer. -/
def wasInPlace (before after : FileStore) (directory : String) (source : Code.Source) : Bool :=
  match after.resolve (target directory source) with
  | .ok place => decide (before.content? place = some source.text.toUTF8)
  | .error _ => false

/-! ## §2 — one file -/

variable {store before middle after : FileStore} {directory path text : String}
  {source : Code.Source} {sources : List Code.Source} {place : Place}

/-- A file that holds the text already is left alone. -/
theorem run_install_of_read (h : store.readText path = .ok text) :
    (install path text : StateM FileStore _).run store = (.ok false, store) := by
  show (install path text : StateM FileStore _) store = _
  simp only [install, FileSystem.readText, bind, StateT.bind, h, if_true]
  rfl

/-- Any other file, and one that cannot be read, is written. -/
theorem run_install_of_not_read (h : store.readText path ≠ .ok text) :
    (install path text : StateM FileStore _).run store =
      match store.write path text.toUTF8 with
      | .ok after => (.ok true, after)
      | .error cause => (.error (.write path cause), store) := by
  have hoverwrite : (install.overwrite path text : StateM FileStore _) store =
      match store.write path text.toUTF8 with
      | .ok after => (.ok true, after)
      | .error cause => (.error (.write path cause), store) := by
    simp only [install.overwrite, FileSystem.writeText, bind, StateT.bind, FileStore.update]
    cases store.write path text.toUTF8 <;> rfl
  rw [← hoverwrite]
  show (install path text : StateM FileStore _) store = _
  simp only [install, FileSystem.readText, bind, StateT.bind]
  cases hread : store.readText path with
  | error cause => rfl
  | ok existing =>
    have hne : existing ≠ text := fun heq => h (by rw [hread, heq])
    simp only [if_neg hne]

/-- **What installing one file can come to**: it was in place, it was written, or it could not
be. -/
theorem install_cases {result : Except Failure Bool}
    (h : (install path text : StateM FileStore _).run store = (result, after)) :
    (store.readText path = .ok text ∧ result = .ok false ∧ after = store) ∨
      (store.readText path ≠ .ok text ∧ result = .ok true ∧
        store.write path text.toUTF8 = .ok after) ∨
      ∃ cause, result = .error (.write path cause) ∧ after = store ∧
        store.write path text.toUTF8 = .error cause := by
  by_cases hread : store.readText path = .ok text
  · rw [run_install_of_read hread] at h
    obtain ⟨rfl, rfl⟩ := Prod.mk.inj h
    exact Or.inl ⟨hread, rfl, rfl⟩
  · rw [run_install_of_not_read hread] at h
    cases hwrite : store.write path text.toUTF8 with
    | ok written =>
      rw [hwrite] at h
      obtain ⟨rfl, rfl⟩ := Prod.mk.inj h
      exact Or.inr (Or.inl ⟨hread, rfl, rfl⟩)
    | error cause =>
      rw [hwrite] at h
      obtain ⟨rfl, rfl⟩ := Prod.mk.inj h
      exact Or.inr (Or.inr ⟨cause, rfl, rfl, rfl⟩)

/-- A source that was installed is in place, and it counts as changed if it was not before. -/
theorem puts_of_install {changed : Bool} (hname : IsFileName source.hintName)
    (h : (install (target directory source) source.text : StateM FileStore _).run store =
      (.ok changed, after)) :
    ∃ place, store.resolve (target directory source) = .ok place ∧
      store.Puts after place source.text.toUTF8 ∧
      (changed = false ↔ store.content? place = some source.text.toUTF8) := by
  rcases install_cases h with ⟨hread, hresult, rfl⟩ | ⟨hread, hresult, hwrite⟩ | ⟨cause, hresult, -⟩
  · obtain rfl := Except.ok.inj hresult
    obtain ⟨place, hresolve, hcontent⟩ := FileStore.readText_eq_ok_iff.mp hread
    exact ⟨place, hresolve, FileStore.puts_self hcontent, iff_of_true rfl hcontent⟩
  · obtain rfl := Except.ok.inj hresult
    obtain ⟨place, hresolve, hputs⟩ := FileStore.puts_of_write hname hwrite
    refine ⟨place, hresolve, hputs, iff_of_false (by simp) fun hcontent => hread ?_⟩
    exact FileStore.readText_eq_ok_iff.mpr ⟨place, hresolve, hcontent⟩
  · exact nomatch hresult

/-! ## §3 — all files -/

theorem installed_nil (store : FileStore) (directory : String) :
    Installed store store directory [] :=
  ⟨fun _ hsource => absurd hsource List.not_mem_nil, fun _ _ => rfl⟩

/-- The place of a source is not the place of another one. -/
theorem resolve_target_ne {other : Code.Source} (hfiles : AreFiles (source :: sources))
    (hmem : other ∈ sources) (hplace : before.resolve (target directory source) = .ok place) :
    after.resolve (target directory other) ≠ .ok place := by
  intro hsame
  have hname : source.hintName = other.hintName :=
    FileStore.eq_of_resolve_join (hfiles.names source List.mem_cons_self)
      (hfiles.names other (List.mem_cons_of_mem _ hmem)) hplace hsame
  exact (List.nodup_cons.mp hfiles.distinct).1 (List.mem_map.mpr ⟨other, hmem, hname.symm⟩)

/-- A file stays in place while others are installed. -/
theorem Installed.cons (hfiles : AreFiles (source :: sources))
    (hplace : after.resolve (target directory source) = .ok place)
    (hputs : store.Puts middle place source.text.toUTF8)
    {installed : List Code.Source} (hsubset : installed ⊆ sources)
    (h : Installed middle after directory installed) :
    Installed store after directory (source :: installed) := by
  have hother : ∀ other ∈ installed, after.resolve (target directory other) ≠ .ok place :=
    fun other hmem => resolve_target_ne hfiles (hsubset hmem) hplace
  -- what the others leave at the place of this source is what was put there
  refine ⟨List.forall_mem_cons.mpr ⟨⟨place, hplace, ?_⟩, h.inPlace⟩, fun free hfree => ?_⟩
  · rw [h.others place hother, hputs.content?]
  · obtain ⟨hfirst, hrest⟩ := List.forall_mem_cons.mp hfree
    have hne : free ≠ place := fun heq => hfirst (heq ▸ hplace)
    rw [h.others free hrest, hputs.others free hne]

theorem wasInPlace_eq (hplace : after.resolve (target directory source) = .ok place) :
    wasInPlace before after directory source =
      decide (before.content? place = some source.text.toUTF8) := by
  rw [wasInPlace, hplace]

/-- Where the path of a source led anywhere before, its text was in place if it was read there. -/
theorem wasInPlace_iff_readText (hkeeps : before.KeepsDirectories after)
    (hplace : before.resolve (target directory source) = .ok place) :
    wasInPlace before after directory source = true ↔
      before.readText (target directory source) = .ok source.text := by
  rw [wasInPlace_eq (hkeeps.resolve hplace), decide_eq_true_iff, FileStore.readText_eq_ok_iff]
  constructor
  · exact fun hcontent => ⟨place, hplace, hcontent⟩
  · rintro ⟨other, hother, hcontent⟩
    obtain rfl := Except.ok.inj (hplace.symm.trans hother)
    exact hcontent

/-- Installing one file does not change what was at the place of another one. -/
theorem wasInPlace_of_puts {other : Code.Source} (hfiles : AreFiles (source :: sources))
    (hmem : other ∈ sources) (hplace : after.resolve (target directory source) = .ok place)
    (hputs : store.Puts middle place source.text.toUTF8) :
    wasInPlace middle after directory other = wasInPlace store after directory other := by
  unfold wasInPlace
  -- the place of the other source is another one, if there is one
  split
  · next free hfree =>
    have hne : free ≠ place := fun heq => resolve_target_ne hfiles hmem hplace (heq ▸ hfree)
    rw [hputs.others free hne]
  · rfl

/-- The report on one more file. -/
def Generated.record (done : Generated) (changed : Bool) (path : String) : Generated :=
  if changed then { done with written := done.written ++ [path] }
  else { done with unchanged := done.unchanged ++ [path] }

/-- The report on more sources: which of them were written and which were left alone. -/
def Generated.add (done : Generated) (before after : FileStore) (directory : String)
    (sources : List Code.Source) : Generated :=
  { done with
    written := done.written ++
      (sources.filter (!wasInPlace before after directory ·)).map (target directory)
    unchanged := done.unchanged ++
      (sources.filter (wasInPlace before after directory ·)).map (target directory) }

/-- The report on the first source and then on the others is the report on all of them, if
installing the first one did not change what the others found. -/
theorem Generated.record_add (done : Generated)
    (hsource : wasInPlace before after directory source = wasInPlace store after directory source)
    (hsources : ∀ other ∈ sources,
      wasInPlace middle after directory other = wasInPlace store after directory other) :
    (done.record (!wasInPlace before after directory source) (target directory source)).add
        middle after directory sources =
      done.add store after directory (source :: sources) := by
  have hfilter : sources.filter (wasInPlace middle after directory ·) =
      sources.filter (wasInPlace store after directory ·) := List.filter_congr hsources
  have hfilter' : sources.filter (!wasInPlace middle after directory ·) =
      sources.filter (!wasInPlace store after directory ·) :=
    List.filter_congr fun other hmem => congrArg (!·) (hsources other hmem)
  rw [hsource]
  cases hwas : wasInPlace store after directory source with
  | true => simp [Generated.add, Generated.record, hwas, hfilter, hfilter']
  | false => simp [Generated.add, Generated.record, hwas, hfilter, hfilter']

/-- The first source is installed, and after it the others, unless that failed. -/
theorem run_installAll_cons (done : Generated) (source : Code.Source) (sources : List Code.Source)
    (store : FileStore) :
    (installAll directory done (source :: sources) : StateM FileStore _).run store =
      match (install (target directory source) source.text : StateM FileStore _).run store with
      | (.error failure, middle) => (.error failure, middle)
      | (.ok changed, middle) =>
        (installAll directory (done.record changed (target directory source)) sources :
          StateM FileStore _).run middle := by
  show (installAll directory done (source :: sources) : StateM FileStore _) store = _
  simp only [installAll, bind, StateT.bind, StateT.run, target]
  generalize (install (Path.join directory source.hintName) source.text : StateM FileStore _)
    store = first
  obtain ⟨result, middle⟩ := first
  cases result with
  | error failure => rfl
  | ok changed => cases changed <;> rfl

/-- **What installing a list of sources can come to.** Either all are in place in the end, and the
report says which of them were before, or those before the first one that could not be written. -/
theorem installAll_cases {done : Generated} {result : Except Failure Generated}
    (hfiles : AreFiles sources)
    (h : (installAll directory done sources : StateM FileStore _).run store = (result, after)) :
    store.KeepsDirectories after ∧
      ((result = .ok (done.add store after directory sources) ∧
          Installed store after directory sources) ∨
        ∃ k source cause, sources[k]? = some source ∧
          result = .error (.write (target directory source) cause) ∧
          after.write (target directory source) source.text.toUTF8 = .error cause ∧
          Installed store after directory (sources.take k)) := by
  induction sources generalizing store done with
  | nil =>
    obtain ⟨rfl, rfl⟩ := Prod.mk.inj (show (Except.ok done, store) = (result, after) from h)
    refine ⟨fun _ hplace => hplace, Or.inl ⟨?_, installed_nil store directory⟩⟩
    simp [Generated.add]
  | cons source sources ih =>
    rw [run_installAll_cons] at h
    have hname := hfiles.names source List.mem_cons_self
    split at h
    · next failure middle hfirst =>
      -- the first source fails, and nothing was done
      obtain ⟨rfl, rfl⟩ := Prod.mk.inj h
      rcases install_cases hfirst with ⟨-, hok, -⟩ | ⟨-, hok, -⟩ | ⟨cause, hfailure, rfl, hwrite⟩
      · exact nomatch hok
      · exact nomatch hok
      · obtain rfl := Except.error.inj hfailure
        exact ⟨fun _ hplace => hplace, Or.inr ⟨0, source, cause, rfl, rfl, hwrite,
          installed_nil middle directory⟩⟩
    · next changed middle hfirst =>
      obtain ⟨place, hresolve, hputs, hchanged⟩ := puts_of_install hname hfirst
      -- the others go on from where the first one was put
      obtain ⟨hkeeps, hrest⟩ := ih hfiles.tail h
      have hplace : after.resolve (target directory source) = .ok place :=
        (hputs.directories.trans hkeeps).resolve hresolve
      refine ⟨hputs.directories.trans hkeeps, ?_⟩
      rcases hrest with ⟨hresult, hinstalled⟩ | ⟨k, failed, cause, hk, hresult, hwrite, hinstalled⟩
      · refine Or.inl ⟨?_, hinstalled.cons hfiles hplace hputs (List.Subset.refl _)⟩
        have hwas : changed = !wasInPlace store after directory source := by
          rw [wasInPlace_eq hplace]
          cases changed <;> simp_all
        rw [hresult, hwas, Generated.record_add done rfl]
        exact fun other hmem => wasInPlace_of_puts hfiles hmem hplace hputs
      · exact Or.inr ⟨k + 1, failed, cause, hk, hresult, hwrite,
          hinstalled.cons hfiles hplace hputs (List.take_subset k sources)⟩

/-! ## §4 — the command -/

variable {manifest : Manifest} {config : Config}

/-- The file that a path leads to has a manifest in it. -/
def Loads (store : FileStore) (path : String) (manifest : Manifest) : Prop :=
  ∃ text, store.readText path = .ok text ∧ Manifest.ofJson text = .ok manifest

/-- Without a manifest the command ends before anything is done. -/
theorem run_generate_of_not_loads (directory : String) (config : Config)
    (h : ∀ manifest, ¬ Loads store path manifest) :
    ∃ failure, (generate path directory config : StateM FileStore _).run store =
      (.error failure, store) := by
  show ∃ failure, (generate path directory config : StateM FileStore _) store = _
  simp only [generate, check, load, FileSystem.readText, bind, StateT.bind]
  -- no text, or a text that is no manifest
  cases hread : store.readText path with
  | error cause => exact ⟨.read path cause, rfl⟩
  | ok text =>
    cases hjson : Manifest.ofJson text with
    | error cause => exact ⟨.manifest path cause, by simp only [hjson]; rfl⟩
    | ok manifest => exact absurd ⟨text, hread, hjson⟩ (h manifest)

/-- With a manifest the pass is run over it, and no file changes. -/
theorem run_check_of_loads (h : Loads store path manifest) :
    (check path config : StateM FileStore _).run store =
      (.ok (compileManifest manifest config), store) := by
  obtain ⟨text, hread, hjson⟩ := h
  show (check path config : StateM FileStore _) store = _
  simp only [check, load, FileSystem.readText, bind, StateT.bind, hread, hjson]
  rfl

/-- With a manifest the directory is created, and then the sources of the pass are installed. -/
theorem run_generate_of_loads (h : Loads store path manifest) :
    (generate path directory config : StateM FileStore _).run store =
      match (FileSystem.createDirectories directory : StateM FileStore _).run store with
      | (.error cause, prepared) => (.error (.write directory cause), prepared)
      | (.ok (), prepared) =>
        (installAll directory { output := compileManifest manifest config }
          (compileManifest manifest config).sources : StateM FileStore _).run prepared := by
  have hcheck : (check path config : StateM FileStore _) store =
      (.ok (compileManifest manifest config), store) := run_check_of_loads h
  show (generate path directory config : StateM FileStore _) store = _
  simp only [generate, bind, StateT.bind, StateT.run, hcheck]
  generalize (FileSystem.createDirectories directory : StateM FileStore _) store = prepared
  obtain ⟨result, prepared⟩ := prepared
  cases result <;> rfl

/-- Directories that were created before hold no file, so they do not count as touched. -/
theorem Installed.of_extends (h : store.Extends middle)
    (hinstalled : Installed middle after directory sources) :
    Installed store after directory sources :=
  ⟨hinstalled.inPlace, fun place hfree =>
    (hinstalled.others place hfree).trans (h.content? place)⟩

/-- Nor did they put a source in place. -/
theorem wasInPlace_of_extends (h : store.Extends middle) :
    wasInPlace middle after directory source = wasInPlace store after directory source := by
  unfold wasInPlace
  simp only [h.content?]

/-- A path leads to one manifest at most. -/
theorem Loads.unique {other : Manifest} (h : Loads store path manifest)
    (hother : Loads store path other) : manifest = other := by
  obtain ⟨text, hread, hjson⟩ := h
  obtain ⟨text', hread', hjson'⟩ := hother
  obtain rfl := Except.ok.inj (hread.symm.trans hread')
  exact Except.ok.inj (hjson.symm.trans hjson')

/-- A manifest stays readable while its own file does not change. -/
theorem Loads.of_content? (h : Loads store path manifest) (hkeeps : store.KeepsDirectories after)
    (hcontent : ∀ place, after.resolve path = .ok place →
      after.content? place = store.content? place) : Loads after path manifest := by
  obtain ⟨text, hread, hjson⟩ := h
  obtain ⟨place, hresolve, hplace⟩ := FileStore.readText_eq_ok_iff.mp hread
  have hresolve' := hkeeps.resolve hresolve
  refine ⟨text, FileStore.readText_eq_ok_iff.mpr ⟨place, hresolve', ?_⟩, hjson⟩
  rw [hcontent place hresolve', hplace]

theorem areFiles_sources (manifest : Manifest) (config : Config) :
    AreFiles (compileManifest manifest config).sources :=
  areFiles_generatedSources _ _ _

/-- **What the command does to the files.** Without a manifest, nothing. With one, either all files
of the pass are in place in the end, and the report says which of them were before; or the directory
could not be created, and no file changed; or some file could not be written, and those before it
are in place. All other files are as they were. -/
theorem generate_effect (store : FileStore) (path directory : String) (config : Config) :
    ∃ result after,
      (generate path directory config : StateM FileStore _).run store = (result, after) ∧
        ((∀ manifest, ¬ Loads store path manifest) →
          after = store ∧ ∃ failure, result = .error failure) ∧
        ∀ manifest, Loads store path manifest →
          let output := compileManifest manifest config
          (Installed store after directory output.sources ∧
            result = .ok {
              output
              written := (output.sources.filter (!wasInPlace store after directory ·)).map
                (target directory)
              unchanged := (output.sources.filter (wasInPlace store after directory ·)).map
                (target directory) }) ∨
          (∃ cause, Installed store after directory [] ∧
            (FileSystem.createDirectories directory : StateM FileStore _).run store =
              (.error cause, after) ∧
            result = .error (.write directory cause)) ∨
          ∃ k source cause, Installed store after directory (output.sources.take k) ∧
            output.sources[k]? = some source ∧
            after.write (target directory source) source.text.toUTF8 = .error cause ∧
            result = .error (.write (target directory source) cause) := by
  by_cases hsome : ∃ manifest, Loads store path manifest
  · obtain ⟨manifest, hloads⟩ := hsome
    cases hrun : (generate path directory config : StateM FileStore _).run store with
    | mk result after =>
      refine ⟨result, after, rfl, fun hnone => absurd hloads (hnone manifest), ?_⟩
      intro other hother
      obtain rfl := hloads.unique hother
      rw [run_generate_of_loads hloads] at hrun
      intro output
      split at hrun
      · next cause prepared hcreate =>
        -- some directories may have been created, but no file was touched
        obtain ⟨rfl, rfl⟩ := Prod.mk.inj hrun
        have hextends := FileStore.extends_createDirectories hcreate
        exact Or.inr (Or.inl ⟨cause, .of_extends hextends (installed_nil prepared directory),
          hcreate, rfl⟩)
      · next prepared hcreate =>
        have hextends := FileStore.extends_createDirectories hcreate
        obtain ⟨-, hcases⟩ := installAll_cases (areFiles_sources manifest config) hrun
        rcases hcases with
          ⟨hresult, hinstalled⟩ | ⟨k, source, cause, hk, hresult, hwrite, hinstalled⟩
        · refine Or.inl ⟨hinstalled.of_extends hextends, ?_⟩
          rw [hresult]
          simp [Generated.add, wasInPlace_of_extends hextends, output]
        · exact Or.inr (Or.inr ⟨k, source, cause, hinstalled.of_extends hextends, hk, hwrite,
            hresult⟩)
  · have hnone : ∀ manifest, ¬ Loads store path manifest := fun manifest h => hsome ⟨manifest, h⟩
    obtain ⟨failure, hrun⟩ := run_generate_of_not_loads directory config hnone
    exact ⟨.error failure, store, hrun, fun _ => ⟨rfl, failure, rfl⟩,
      fun manifest h => absurd h (hnone manifest)⟩

/-- Where all files are in place already, nothing is written. -/
theorem run_installAll_of_read
    (h : ∀ source ∈ sources, store.readText (target directory source) = .ok source.text)
    (done : Generated) :
    (installAll directory done sources : StateM FileStore _).run store =
      (.ok { done with unchanged := done.unchanged ++ sources.map (target directory) }, store) := by
  induction sources generalizing done with
  | nil =>
    show (Except.ok done, store) = _
    rw [List.map_nil, List.append_nil]
  | cons source sources ih =>
    obtain ⟨hsource, hsources⟩ := List.forall_mem_cons.mp h
    -- the first one was read, so the others find the same store
    rw [run_installAll_cons, run_install_of_read hsource]
    show (installAll directory (done.record false (target directory source)) sources :
      StateM FileStore _).run store = _
    rw [ih hsources]
    simp [Generated.record]

/-- **The command done again finds everything done**, as long as its manifest is not the place of
one of its files. -/
theorem generate_again {done : Generated}
    (h : (generate path directory config : StateM FileStore _).run store = (.ok done, after))
    (hmanifest : ∀ source ∈ done.output.sources,
      after.resolve path ≠ after.resolve (target directory source)) :
    (generate path directory config : StateM FileStore _).run after =
      (.ok {
        output := done.output
        written := []
        unchanged := done.output.sources.map (target directory) }, after) := by
  by_cases hsome : ∃ manifest, Loads store path manifest
  · obtain ⟨manifest, hloads⟩ := hsome
    rw [run_generate_of_loads hloads] at h
    split at h
    · exact nomatch (Prod.mk.inj h).1
    · next prepared hcreate =>
      have hextends := FileStore.extends_createDirectories hcreate
      obtain ⟨hkeeps, hcases⟩ := installAll_cases (areFiles_sources manifest config) h
      rcases hcases with ⟨hresult, hinstalled⟩ | ⟨k, source, cause, -, hresult, -, -⟩
      · obtain rfl := Except.ok.inj hresult
        -- the manifest is still there, for no file was put at its place
        have hloads' : Loads after path manifest := by
          refine hloads.of_content? (hextends.directories.trans hkeeps) fun place hplace => ?_
          have hfree : ∀ source ∈ (compileManifest manifest config).sources,
              after.resolve (target directory source) ≠ .ok place :=
            fun source hsource hsame => hmanifest source hsource (hplace.trans hsame.symm)
          rw [hinstalled.others place hfree, hextends.content?]
        have hread : ∀ source ∈ (compileManifest manifest config).sources,
            after.readText (target directory source) = .ok source.text :=
          fun source hsource => FileStore.readText_eq_ok_iff.mpr (hinstalled.inPlace source hsource)
        rw [run_generate_of_loads hloads', FileStore.createDirectories_again hcreate hkeeps]
        exact run_installAll_of_read hread _
      · exact nomatch hresult
  · obtain ⟨failure, hrun⟩ := run_generate_of_not_loads directory config
      fun manifest hloads => hsome ⟨manifest, hloads⟩
    rw [hrun] at h
    exact nomatch (Prod.mk.inj h).1

/-- Over a directory with an old file in it. -/
theorem generate_again_stale :
    let store : FileStore := ⟨[(["manifest.json"], .file "\x7b\x7d".toUTF8), (["out"], .directory),
      (["out", Code.registrationsHint], .file "old".toUTF8)]⟩
    ∃ done after,
      (generate "manifest.json" "./out" {} : StateM FileStore _).run store = (.ok done, after) ∧
        (∀ source ∈ done.output.sources,
          after.resolve "manifest.json" ≠ after.resolve (target "./out" source)) ∧
        (generate "manifest.json" "./out" {} : StateM FileStore _).run after =
          (.ok {
            output := done.output
            written := []
            unchanged := done.output.sources.map (target "./out") }, after) := by
  intro store
  have hfirst :
      (match (generate "manifest.json" "./out" {} : StateM FileStore _).run store with
        | (.ok done, after) => decide (∀ source ∈ done.output.sources,
            after.resolve "manifest.json" ≠ after.resolve (target "./out" source))
        | (.error _, _) => false) = true := by
    decide +kernel
  split at hfirst
  · next done after hrun =>
    have hmanifest := of_decide_eq_true hfirst
    exact ⟨done, after, hrun, hmanifest, generate_again hrun hmanifest⟩
  · exact nomatch hfirst

end Command

end Registrar
