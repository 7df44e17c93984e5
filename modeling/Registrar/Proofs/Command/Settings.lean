import Registrar.Proofs.Command.Units

/-!
# What units ask for

Each unit is for one setting, and for each setting only its own units count. So what a row of units
comes to is said setting by setting, and the row may be rearranged as long as the units for each
setting keep their order.

* `Settings.SetBy` : the settings that units ask for.
* `Draft.addAll_cases` : what the units of a row come to.
* `parse_compiles_eq_ok_iff` : the command lines that are accepted, and what they mean.
* `parse_units` : the same with all other command lines, and with rows rearranged.
-/

namespace Registrar.Command

/-! ## §1 — units for a setting

Every unit is for one setting. Of the units for a setting the last one counts, except that names of
namespaces are added up and that the manifest can be given only once. -/

/-- What a unit can be for. -/
inductive Setting where
  | manifest
  | outputDirectory
  | format
  | color
  | container
  | containerNamespace
  | usings
  | attributes
  | ordering
  | markers
deriving DecidableEq

def Item.setting : Item → Setting
  | .outputDirectory _ => .outputDirectory
  | .format _ => .format
  | .color _ => .color
  | .container _ => .container
  | .containerNamespace _ => .containerNamespace
  | .addUsing _ => .usings
  | .noAttributes => .attributes
  | .keepOrder => .ordering
  | .lenientMarkers => .markers
  | .manifest _ => .manifest

/-- The units for a setting, in order. -/
def unitsFor (setting : Setting) (items : List Item) : List Item :=
  items.filter (·.setting = setting)

/-- These are the settings that units ask for. -/
structure Settings.SetBy (s : Settings) (items : List Item) : Prop where
  format : (unitsFor .format items).getLast?.getD (.format .human) = .format s.format
  color : (unitsFor .color items).getLast?.getD (.color .auto) = .color s.color
  outputDirectory :
    (unitsFor .outputDirectory items).getLast? = s.outputDirectory.map .outputDirectory
  container : (unitsFor .container items).getLast?.getD (.container "InjectionContainer") =
    .container s.config.code.containerClass
  containerNamespace : (unitsFor .containerNamespace items).getLast? =
    s.config.code.containerNamespace.map .containerNamespace
  usings : ∃ names : List String,
    unitsFor .usings items = names.map .addUsing ∧ s.config.code.usings = "Godot" :: names
  attributes : s.config.withAttributes = true ↔ Item.noAttributes ∉ items
  ordering : s.config.ordering = if Item.keepOrder ∈ items then .firstSeen else .dependencyOrder
  markers : s.config.markerPolicy = if Item.lenientMarkers ∈ items then .fallThrough else .strict
  /-- All other names are the usual ones. -/
  others : s.config.code.attributeNamespace = "GodotDiSourceGenerator" ∧
    s.config.code.nodeType = "Node" ∧ s.config.code.scopeType = "IServiceScope"

/-- What the units so far come to. -/
structure Draft.MadeOf (draft : Draft) (items : List Item) : Prop where
  manifest : unitsFor .manifest items = draft.manifest.toList.map .manifest
  settings : draft.settings.SetBy items

@[simp] theorem unitsFor_nil (setting : Setting) : unitsFor setting [] = [] := rfl

@[simp] theorem unitsFor_append (setting : Setting) (items more : List Item) :
    unitsFor setting (items ++ more) = unitsFor setting items ++ unitsFor setting more :=
  List.filter_append ..

@[simp] theorem unitsFor_cons (setting : Setting) (item : Item) (items : List Item) :
    unitsFor setting (item :: items) =
      if item.setting = setting then item :: unitsFor setting items
      else unitsFor setting items := by
  simp only [unitsFor, List.filter_cons, decide_eq_true_eq]

theorem mem_unitsFor {item : Item} {items : List Item} :
    item ∈ unitsFor item.setting items ↔ item ∈ items := by
  simp [unitsFor]

theorem Draft.madeOf_nil : ({} : Draft).MadeOf [] where
  manifest := rfl
  settings := ⟨rfl, rfl, rfl, rfl, rfl, ⟨[], rfl, rfl⟩, by decide, rfl, rfl, rfl, rfl, rfl⟩

/-- **One more unit that can be added is one that was asked for.** One case for each kind of unit;
the manifest is the only one that may be refused. -/
theorem Draft.MadeOf.add {draft draft' : Draft} {items : List Item} (h : draft.MadeOf items)
    {item : Item} (hadd : draft.add item = .ok draft') : draft'.MadeOf (items ++ [item]) := by
  obtain ⟨hmanifest, hset⟩ := h
  obtain ⟨names, hnames, husings⟩ := hset.usings
  cases item with
  | manifest path =>
    -- it was added, so there was none before
    have hnone : draft.manifest = none := by
      cases hgiven : draft.manifest with
      | none => rfl
      | some first => simp [Draft.add, hgiven] at hadd
    obtain rfl : { draft with manifest := some path } = draft' := by
      simpa [Draft.add, hnone] using hadd
    constructor
    · simp [Item.setting, hmanifest, hnone]
    · constructor <;> simp [Item.setting, hset.format, hset.color,
        hset.outputDirectory, hset.container, hset.containerNamespace, hset.attributes,
        hset.ordering, hset.markers, hset.others, hnames, husings]
  | _ =>
    obtain rfl := Except.ok.inj hadd
    constructor
    · simp [Item.setting, Draft.configure, Draft.configureCode, hmanifest]
    · constructor <;> simp [Item.setting, Draft.configure, Draft.configureCode,
        hset.format, hset.color, hset.outputDirectory, hset.container, hset.containerNamespace,
        hset.attributes, hset.ordering, hset.markers, hset.others, hnames, husings]

/-- Only a manifest after a manifest cannot be added. -/
theorem Draft.add_eq_error {draft : Draft} {item : Item} {error : UsageError}
    (h : draft.add item = .error error) : ∃ first second, draft.manifest = some first ∧
      item = .manifest second ∧ error = .unexpectedArgument second := by
  cases item with
  | manifest second =>
    cases hgiven : draft.manifest with
    | none => simp [Draft.add, hgiven] at h
    | some first =>
      simp only [Draft.add, hgiven, Except.error.injEq] at h
      exact ⟨first, second, rfl, rfl, h.symm⟩
  | _ => simp [Draft.add] at h

/-- **Units come to a draft of what they ask for, unless there is a second manifest.** Induction on
the units that are still to come. -/
theorem Draft.addAll_cases {draft : Draft} {before : List Item} (h : draft.MadeOf before)
    (items : List Item) :
    (∃ draft', draft.addAll items = .ok draft' ∧ draft'.MadeOf (before ++ items)) ∨
      ∃ first second more, draft.addAll items = .error (.unexpectedArgument second) ∧
        unitsFor .manifest (before ++ items) = .manifest first :: .manifest second :: more := by
  induction items generalizing draft before with
  | nil => exact Or.inl ⟨draft, rfl, by simpa using h⟩
  | cons item items ih =>
    -- the unit is added, or it is a second manifest and nothing after it is looked at
    cases hadd : draft.add item with
    | ok next =>
      have hnext := ih (h.add hadd)
      rw [List.append_assoc] at hnext
      show (∃ draft', (draft.add item).bind _ = _ ∧ _) ∨ ∃ _ _ _, (draft.add item).bind _ = _ ∧ _
      rw [hadd]
      exact hnext
    | error e =>
      obtain ⟨first, second, hgiven, rfl, rfl⟩ := Draft.add_eq_error hadd
      refine Or.inr ⟨first, second, unitsFor .manifest items, ?_, ?_⟩
      · rw [Draft.addAll, hadd]
        rfl
      · simp [Item.setting, h.manifest, hgiven]

/-- Units ask for one set of settings only. -/
theorem Settings.SetBy.unique {s s' : Settings} {items : List Item} (h : s.SetBy items)
    (h' : s'.SetBy items) : s = s' := by
  have hformat := Item.format.inj (h.format.symm.trans h'.format)
  have hcolor := Item.color.inj (h.color.symm.trans h'.color)
  have hdirectory := Option.map_injective (fun _ _ => Item.outputDirectory.inj)
    (h.outputDirectory.symm.trans h'.outputDirectory)
  have hcontainer := Item.container.inj (h.container.symm.trans h'.container)
  have hnamespace := Option.map_injective (fun _ _ => Item.containerNamespace.inj)
    (h.containerNamespace.symm.trans h'.containerNamespace)
  -- names are added up, so all units for them are compared
  have husings : s.config.code.usings = s'.config.code.usings := by
    obtain ⟨names, hnames, hs⟩ := h.usings
    obtain ⟨names', hnames', hs'⟩ := h'.usings
    have heq := List.map_injective_iff.mpr (fun _ _ => Item.addUsing.inj)
      (hnames.symm.trans hnames')
    rw [hs, hs', heq]
  have hattributes := Bool.eq_iff_iff.mpr (h.attributes.trans h'.attributes.symm)
  have hordering := h.ordering.trans h'.ordering.symm
  have hmarkers := h.markers.trans h'.markers.symm
  have hothers := h.others
  have hothers' := h'.others
  rcases s with ⟨_, _, _, _, _, ⟨⟩, _⟩
  rcases s' with ⟨_, _, _, _, _, ⟨⟩, _⟩
  simp_all

/-- Settings are set by the units for each of them, in whatever order the row has these. -/
theorem Settings.SetBy.congr {s : Settings} {items items' : List Item} (h : s.SetBy items)
    (hsame : ∀ setting, unitsFor setting items' = unitsFor setting items) : s.SetBy items' := by
  have hmem : ∀ item : Item, item ∈ items' ↔ item ∈ items := by
    intro item
    rw [← mem_unitsFor, hsame, mem_unitsFor]
  constructor
  case others => exact h.others
  case attributes => rw [hmem]; exact h.attributes
  case ordering => simpa only [hmem] using h.ordering
  case markers => simpa only [hmem] using h.markers
  case format => rw [hsame]; exact h.format
  case color => rw [hsame]; exact h.color
  case outputDirectory => rw [hsame]; exact h.outputDirectory
  case container => rw [hsame]; exact h.container
  case containerNamespace => rw [hsame]; exact h.containerNamespace
  case usings => rw [hsame]; exact h.usings

/-! ## §2 — the commands that compile -/

/-- The commands that are followed by units. -/
inductive Compiles : String → (String → Action) → Prop
  | generate : Compiles "generate" .generate
  | check : Compiles "check" .check

variable {command : String} {action : String → Action}

theorem parse_of_compiles (h : Compiles command action) (args : List String) :
    parse (command :: args) = (readCompileArguments command args).map
      fun read => { action := action read.1, settings := read.2 } := by
  cases h <;> rfl

/-- **What a row of units is read as.** The units for the manifest decide whether it is accepted. -/
theorem readCompileArguments_cases (command : String) {items : List Item} {args : List String}
    (h : Units items args) :
    (∃ path settings, unitsFor .manifest items = [.manifest path] ∧ settings.SetBy items ∧
        readCompileArguments command args = .ok (path, settings)) ∨
      (unitsFor .manifest items = [] ∧
        readCompileArguments command args = .error (.missingManifest command)) ∨
      ∃ first second more, unitsFor .manifest items = .manifest first :: .manifest second :: more ∧
        readCompileArguments command args = .error (.unexpectedArgument second) := by
  unfold readCompileArguments
  rw [readItems_of_units h]
  rcases Draft.addAll_cases Draft.madeOf_nil items with ⟨draft, hadd, hmade⟩ |
    ⟨first, second, more, hadd, hmanifest⟩
  · rw [hadd]
    have hmanifest := hmade.manifest
    -- the units could all be added, so there is one manifest at most
    cases hgiven : draft.manifest with
    | none =>
      rw [hgiven] at hmanifest
      exact Or.inr (Or.inl ⟨hmanifest, by simp [hgiven]⟩)
    | some path =>
      rw [hgiven] at hmanifest
      exact Or.inl ⟨path, draft.settings, hmanifest, hmade.settings, by simp [hgiven]⟩
  · rw [hadd]
    exact Or.inr (Or.inr ⟨first, second, more, hmanifest, rfl⟩)

/-- What is read to the end is a row of units. -/
theorem exists_units_of_readCompileArguments {args : List String} {read : String × Settings}
    (h : readCompileArguments command args = .ok read) : ∃ items, Units items args := by
  unfold readCompileArguments at h
  cases hread : readItems {} args with
  | error e => rw [hread] at h; exact nomatch h
  | ok draft => exact exists_units_of_readItems hread

/-- **Accepted is what is a row of units with one manifest**, and it is read as what they ask
for. -/
theorem readCompileArguments_eq_ok_iff {args : List String} {path : String} {settings : Settings} :
    readCompileArguments command args = .ok (path, settings) ↔
      ∃ items, Units items args ∧ unitsFor .manifest items = [.manifest path] ∧
        settings.SetBy items := by
  constructor
  · intro h
    obtain ⟨items, hunits⟩ := exists_units_of_readCompileArguments h
    rcases readCompileArguments_cases command hunits with
      ⟨path', settings', hmanifest, hset, hread⟩ | ⟨-, hread⟩ | ⟨_, _, _, -, hread⟩
    · obtain ⟨rfl, rfl⟩ := Prod.mk.inj (Except.ok.inj (h.symm.trans hread))
      exact ⟨items, hunits, hmanifest, hset⟩
    · exact nomatch h.symm.trans hread
    · exact nomatch h.symm.trans hread
  · rintro ⟨items, hunits, hmanifest, hset⟩
    rcases readCompileArguments_cases command hunits with
      ⟨path', settings', hmanifest', hset', hread⟩ | ⟨hnone, -⟩ | ⟨_, _, _, hseveral, -⟩
    · obtain rfl := hset'.unique hset
      obtain rfl : path' = path := by simpa using hmanifest'.symm.trans hmanifest
      exact hread
    · exact nomatch hnone.symm.trans hmanifest
    · exact nomatch hseveral.symm.trans hmanifest

/-- Rows that have the same units for each setting in the same order are read alike, also where
they are not accepted. -/
theorem readCompileArguments_rearrange {items items' : List Item} {args args' : List String}
    (h : Units items args) (h' : Units items' args')
    (hsame : ∀ setting, unitsFor setting items' = unitsFor setting items) :
    readCompileArguments command args' = readCompileArguments command args := by
  have hmanifests := hsame .manifest
  rcases readCompileArguments_cases command h with
    ⟨path, settings, hmanifest, hset, hread⟩ | ⟨hmanifest, hread⟩ |
    ⟨first, second, more, hmanifest, hread⟩
  · rw [hread]
    exact readCompileArguments_eq_ok_iff.mpr
      ⟨items', h', hmanifests.trans hmanifest, hset.congr hsame⟩
  -- a row that is refused is refused for its manifests, and these are the same
  all_goals
    rw [hread]
    rcases readCompileArguments_cases command h' with
      ⟨_, _, hmanifest', -, -⟩ | ⟨hmanifest', hread'⟩ | ⟨_, _, _, hmanifest', hread'⟩ <;>
    simp_all

/-- **The command lines that are accepted, and what they mean.** -/
theorem parse_compiles_eq_ok_iff (h : Compiles command action) {args : List String}
    {invocation : Invocation} :
    parse (command :: args) = .ok invocation ↔
      ∃ items path, Units items args ∧ unitsFor .manifest items = [.manifest path] ∧
        invocation.action = action path ∧ invocation.settings.SetBy items := by
  rw [parse_of_compiles h, map_eq_ok_iff]
  constructor
  · rintro ⟨⟨path, settings⟩, hread, rfl⟩
    obtain ⟨items, hunits, hmanifest, hset⟩ := readCompileArguments_eq_ok_iff.mp hread
    exact ⟨items, path, hunits, hmanifest, rfl, hset⟩
  · rintro ⟨items, path, hunits, hmanifest, haction, hset⟩
    refine ⟨(path, invocation.settings),
      readCompileArguments_eq_ok_iff.mpr ⟨items, hunits, hmanifest, hset⟩, ?_⟩
    cases invocation
    exact congrArg (Invocation.mk · _) haction.symm

/-- A row of units with one manifest is accepted. -/
theorem exists_parse_of_units (h : Compiles command action) {items : List Item} {args : List String}
    {path : String} (hunits : Units items args)
    (hmanifest : unitsFor .manifest items = [.manifest path]) :
    ∃ invocation, parse (command :: args) = .ok invocation := by
  rcases readCompileArguments_cases command hunits with
    ⟨path', settings, _, _, hread⟩ | ⟨hnone, -⟩ | ⟨_, _, _, hseveral, -⟩
  · rw [parse_of_compiles h, hread]
    exact ⟨_, rfl⟩
  · exact nomatch hnone.symm.trans hmanifest
  · exact nomatch hseveral.symm.trans hmanifest

/-- **Rows of units with one manifest, and only they, are read as what the units ask for, in
whatever order the units for different settings come.** -/
theorem parse_units (h : Compiles command action) (args : List String) :
    (∀ invocation : Invocation, parse (command :: args) = .ok invocation ↔
      ∃ items path, Units items args ∧ unitsFor .manifest items = [.manifest path] ∧
        invocation.action = action path ∧ invocation.settings.SetBy items) ∧
    ((∃ error, parse (command :: args) = .error error) ↔
      ¬ ∃ items path, Units items args ∧ unitsFor .manifest items = [.manifest path]) ∧
    ∀ items items' args', Units items args → Units items' args' →
      (∀ setting, unitsFor setting items' = unitsFor setting items) →
      parse (command :: args') = parse (command :: args) := by
  refine ⟨fun _ => parse_compiles_eq_ok_iff h, ⟨?_, ?_⟩, ?_⟩
  · rintro ⟨error, herror⟩ ⟨items, path, hunits, hmanifest⟩
    obtain ⟨invocation, hparse⟩ := exists_parse_of_units h hunits hmanifest
    exact nomatch hparse.symm.trans herror
  · intro hnot
    cases hparse : parse (command :: args) with
    | error error => exact ⟨error, rfl⟩
    | ok invocation =>
      obtain ⟨items, path, hunits, hmanifest, -⟩ := (parse_compiles_eq_ok_iff h).mp hparse
      exact absurd ⟨items, path, hunits, hmanifest⟩ hnot
  · intro items items' args' hunits hunits' hsame
    rw [parse_of_compiles h, parse_of_compiles h,
      readCompileArguments_rearrange hunits hunits' hsame]

/-- The argument after `-o` may look like an option, and units for other settings may change their
places, in other words even. -/
theorem parse_units_rearranged :
    Compiles "generate" .generate ∧
      parse ["generate", "-o", "--keep-order", "--format=json", "di.json", "--using= Game ",
          "--format=human"] =
        .ok { action := .generate "di.json", settings :=
          { outputDirectory := some "--keep-order"
            config := { code := { usings := ["Godot", "Game"] } } } } ∧
      parse ["generate", "--using=Game", "--format=json", "--format=human",
          "--out-dir=--keep-order", "di.json"] =
        parse ["generate", "-o", "--keep-order", "--format=json", "di.json", "--using= Game ",
          "--format=human"] := by
  have hfirst : Units [.outputDirectory "--keep-order", .format .json, .manifest "di.json",
      .addUsing "Game", .format .human]
      ["-o", "--keep-order", "--format=json", "di.json", "--using= Game ", "--format=human"] :=
    .directoryAfter _ <| .cons (.format .json) <| .cons (.manifest (by decide)) <|
      .cons (.addUsing " Game " ⟨'G', by decide, by decide⟩) <|
      .cons (.format .human) .nil
  have hsecond : Units [.addUsing "Game", .format .json, .format .human,
      .outputDirectory "--keep-order", .manifest "di.json"]
      ["--using=Game", "--format=json", "--format=human", "--out-dir=--keep-order", "di.json"] :=
    .cons (.addUsing "Game" ⟨'G', by decide, by decide⟩) <| .cons (.format .json) <|
      .cons (.format .human) <| .cons (.outputDirectory "--keep-order") <|
      .cons (.manifest (by decide)) .nil
  refine ⟨.generate, ?_, ?_⟩
  · refine ((parse_units .generate _).1 _).mpr ⟨_, "di.json", hfirst, rfl, rfl, ?_⟩
    exact ⟨rfl, rfl, rfl, rfl, rfl, ⟨["Game"], rfl, rfl⟩, by decide, rfl, rfl, rfl, rfl, rfl⟩
  · exact (parse_units .generate _).2.2 _ _ _ hfirst hsecond (by rintro ⟨⟩ <;> rfl)

end Registrar.Command
