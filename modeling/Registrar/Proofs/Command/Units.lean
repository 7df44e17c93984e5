import Mathlib.Data.List.Nodup
import Registrar.Command.Arguments
import Registrar.Proofs.Lists

/-!
# Command lines made of units

After `generate` or `check` a command line is a row of units. What a unit looks like is said here
without the reader; the reader takes exactly the rows of units apart, unless one of them cannot be
added to those before it.

* `Item.Written`, `Units` : how units are written, one and several.
* `ofArgument_eq_ok_iff` : which arguments are units on their own.
* `readItems_of_units`, `exists_units_of_readItems` : the reader takes a row apart.
-/

namespace Registrar.Command

/-! ## §1 — units as they are written -/

def formatWord : Report.Format → String
  | .human => "human"
  | .json => "json"

def colorWord : Report.ColorMode → String
  | .auto => "auto"
  | .always => "always"
  | .never => "never"

/-- Not blank throughout. -/
def HasText (value : String) : Prop := ∃ c ∈ value.toList, Text.isBlank c = false

/-- The argument that a unit can be written as. -/
inductive Item.Written : Item → String → Prop
  | outputDirectory (path : String) : Written (.outputDirectory path) ("--out-dir=" ++ path)
  | format (format : Report.Format) : Written (.format format) ("--format=" ++ formatWord format)
  | color (mode : Report.ColorMode) : Written (.color mode) ("--color=" ++ colorWord mode)
  | container (name : String) (h : HasText name) :
    Written (.container (Text.trim name)) ("--container=" ++ name)
  | containerNamespace (name : String) (h : HasText name) :
    Written (.containerNamespace (Text.trim name)) ("--namespace=" ++ name)
  | addUsing (name : String) (h : HasText name) :
    Written (.addUsing (Text.trim name)) ("--using=" ++ name)
  | noAttributes : Written .noAttributes "--no-attributes"
  | keepOrder : Written .keepOrder "--keep-order"
  | lenientMarkers : Written .lenientMarkers "--lenient-markers"
  | manifest {path : String} (h : path.toList.head? ≠ some '-') : Written (.manifest path) path

/-- Arguments that are units one after another. Whatever comes after `-o` belongs to it, also what
looks like an option; every other unit is one argument. -/
inductive Units : List Item → List String → Prop
  | nil : Units [] []
  | directoryAfter (path : String) {items : List Item} {args : List String}
    (more : Units items args) : Units (.outputDirectory path :: items) ("-o" :: path :: args)
  | cons {item : Item} {items : List Item} {arg : String} {args : List String}
    (h : item.Written arg) (more : Units items args) : Units (item :: items) (arg :: args)

/-! ## §2 — one unit

An option and its value are told apart at the first equals sign, and no name of an option has one;
so an argument is an option in at most one way. -/

/-- A format is read from its word, and from nothing else. -/
theorem readFormat_eq_ok_iff {value : String} {format : Report.Format} :
    readFormat value = .ok format ↔ value = formatWord format := by
  unfold readFormat
  cases format <;> grind [formatWord]

/-- So is a mode for colours. -/
theorem readColor_eq_ok_iff {value : String} {mode : Report.ColorMode} :
    readColor value = .ok mode ↔ value = colorWord mode := by
  unfold readColor
  cases mode <;> grind [colorWord]

/-- A value has text if anything is left of it when it is trimmed. -/
theorem hasText_iff {value : String} : HasText value ↔ (Text.trim value).isEmpty = false := by
  have hempty : (Text.trim value).isEmpty = true ↔ ∀ c ∈ value.toList, Text.isBlank c = true := by
    rw [String.isEmpty_iff, ← String.toList_inj, Text.toList_trim]
    exact Text.trimChars_eq_nil_iff
  rw [← Bool.not_eq_true, hempty, HasText]
  simp

theorem readName_eq_ok_iff {option value name : String} :
    readName option value = .ok name ↔ HasText value ∧ name = Text.trim value := by
  rw [hasText_iff, readName]
  cases (Text.trim value).isEmpty <;> simp [eq_comm]

/-- An option has the value that follows its equals sign. -/
theorem valueOf?_eq_some_iff {option arg value : String} :
    valueOf? option arg = some value ↔ arg = option ++ "=" ++ value := by
  rw [valueOf?, Option.map_eq_some_iff]
  constructor
  · rintro ⟨rest, harg, rfl⟩
    rw [Text.dropStart?_eq_some_iff] at harg
    rw [← String.toList_inj, harg]
    simp
  · rintro rfl
    refine ⟨value.toList, ?_, String.ofList_toList⟩
    rw [Text.dropStart?_eq_some_iff, String.toList_append]

/-- What an argument says if it is one of the options with a value. -/
def readOption? (arg : String) : Option (Except UsageError Item) :=
  valueOptions.findSome? fun option => (valueOf? option.1 arg).map option.2

/-- **An argument is read as an option exactly if it is one with an equals sign and a value.** -/
theorem readOption?_eq_some_iff {arg : String} {read : Except UsageError Item} :
    readOption? arg = some read ↔
      ∃ option ∈ valueOptions, ∃ value, arg = option.1 ++ "=" ++ value ∧ option.2 value = read := by
  have hread : ∀ option : String × (String → Except UsageError Item), ∀ read,
      (valueOf? option.1 arg).map option.2 = some read ↔
        ∃ value, arg = option.1 ++ "=" ++ value ∧ option.2 value = read := by
    intro option read
    simp only [Option.map_eq_some_iff, valueOf?_eq_some_iff]
  constructor
  · intro h
    obtain ⟨option, hmem, hoption⟩ := List.exists_of_findSome?_eq_some h
    exact ⟨option, hmem, (hread option read).mp hoption⟩
  · rintro ⟨option, hmem, value, harg, rfl⟩
    have hnames : (valueOptions.map (·.1)).Nodup := by decide
    have hsigns : ∀ option ∈ valueOptions, '=' ∉ option.1.toList := by simp [valueOptions]
    -- the search stops at some option; it is this one
    cases hfound : readOption? arg with
    | none =>
      have hnone := List.findSome?_eq_none_iff.mp hfound option hmem
      rw [(hread option _).mpr ⟨value, harg, rfl⟩] at hnone
      exact nomatch hnone
    | some found =>
      obtain ⟨other, hother, hsome⟩ := List.exists_of_findSome?_eq_some hfound
      obtain ⟨value', harg', rfl⟩ := (hread other found).mp hsome
      -- both names end at the first equals sign of the argument
      have hcut := harg.symm.trans harg'
      simp only [← String.toList_inj, String.toList_append, List.append_assoc] at hcut
      obtain ⟨hname, hvalue⟩ := eq_of_append_cons_eq (hsigns option hmem) (hsigns other hother) hcut
      obtain rfl := List.inj_on_of_nodup_map hnames hmem hother (String.toList_inj.mp hname)
      rw [String.toList_inj.mp hvalue]

/-- Options with a value come before anything else. -/
theorem ofArgument_of_readOption? {arg : String} {read : Except UsageError Item}
    (h : readOption? arg = some read) : Item.ofArgument arg = read := by
  unfold readOption? at h
  unfold Item.ofArgument
  rw [h]

theorem ofArgument_option {name : String} {read : String → Except UsageError Item}
    (h : (name, read) ∈ valueOptions) (value : String) :
    Item.ofArgument (name ++ "=" ++ value) = read value :=
  ofArgument_of_readOption? (readOption?_eq_some_iff.mpr ⟨_, h, value, rfl, rfl⟩)

/-- Anything else is one of three flags, an unknown option, or the manifest. -/
theorem ofArgument_of_not_option {arg : String} (h : readOption? arg = none) :
    Item.ofArgument arg =
      if arg = "--no-attributes" then .ok .noAttributes
      else if arg = "--keep-order" then .ok .keepOrder
      else if arg = "--lenient-markers" then .ok .lenientMarkers
      else if arg.toList.head? = some '-' then .error (.unknownOption arg)
      else .ok (.manifest arg) := by
  unfold readOption? at h
  unfold Item.ofArgument
  rw [h]

/-- Each option with a value is written as its name says. -/
theorem written_of_readOption? {arg : String} {item : Item}
    (h : readOption? arg = some (.ok item)) : item.Written arg := by
  obtain ⟨option, hmem, value, rfl, hread⟩ := readOption?_eq_some_iff.mp h
  simp only [valueOptions, List.mem_cons, List.not_mem_nil, or_false] at hmem
  -- one case for each option, with what its value is read as
  rcases hmem with rfl | rfl | rfl | rfl | rfl | rfl <;> dsimp only at hread ⊢
  · obtain rfl : Item.outputDirectory value = item := by simpa using hread
    exact .outputDirectory value
  · obtain ⟨format, hformat, rfl⟩ := map_eq_ok_iff.mp hread
    obtain rfl := readFormat_eq_ok_iff.mp hformat
    exact .format format
  · obtain ⟨mode, hmode, rfl⟩ := map_eq_ok_iff.mp hread
    obtain rfl := readColor_eq_ok_iff.mp hmode
    exact .color mode
  · obtain ⟨name, hname, rfl⟩ := map_eq_ok_iff.mp hread
    obtain ⟨htext, rfl⟩ := readName_eq_ok_iff.mp hname
    exact .container _ htext
  · obtain ⟨name, hname, rfl⟩ := map_eq_ok_iff.mp hread
    obtain ⟨htext, rfl⟩ := readName_eq_ok_iff.mp hname
    exact .containerNamespace _ htext
  · obtain ⟨name, hname, rfl⟩ := map_eq_ok_iff.mp hread
    obtain ⟨htext, rfl⟩ := readName_eq_ok_iff.mp hname
    exact .addUsing _ htext

/-- All options with a value begin with the same character. -/
theorem readOption?_of_head {arg : String} (h : arg.toList.head? ≠ some '-') :
    readOption? arg = none := by
  rw [Option.eq_none_iff_forall_ne_some]
  intro read hread
  obtain ⟨option, hmem, value, rfl, -⟩ := readOption?_eq_some_iff.mp hread
  -- the names are fixed, and each begins with a minus sign
  have hdash : ∀ option ∈ valueOptions, option.1.toList.head? = some '-' := by simp [valueOptions]
  exact h (by simp [List.head?_append, hdash option hmem])

/-- **An argument is a unit on its own exactly when the unit is written so.** -/
theorem ofArgument_eq_ok_iff {arg : String} {item : Item} :
    Item.ofArgument arg = .ok item ↔ item.Written arg := by
  constructor
  · intro h
    -- the reader looks for options with a value first, then for flags
    cases hread : readOption? arg with
    | some read =>
      rw [ofArgument_of_readOption? hread] at h
      exact written_of_readOption? (hread.trans (congrArg some h))
    | none =>
      rw [ofArgument_of_not_option hread] at h
      split at h
      · next harg => exact Except.ok.inj h ▸ harg ▸ .noAttributes
      split at h
      · next harg => exact Except.ok.inj h ▸ harg ▸ .keepOrder
      split at h
      · next harg => exact Except.ok.inj h ▸ harg ▸ .lenientMarkers
      split at h
      · exact nomatch h
      · next hhead => exact Except.ok.inj h ▸ .manifest hhead
  · intro h
    have hname : ∀ {option name : String}, HasText name →
        readName option name = .ok (Text.trim name) :=
      fun htext => readName_eq_ok_iff.mpr ⟨htext, rfl⟩
    cases h with
    | outputDirectory path => exact ofArgument_option (.head _) path
    | format format =>
      refine (ofArgument_option (.tail _ (.head _)) _).trans ?_
      exact map_eq_ok_iff.mpr ⟨format, readFormat_eq_ok_iff.mpr rfl, rfl⟩
    | color mode =>
      refine (ofArgument_option (.tail _ (.tail _ (.head _))) _).trans ?_
      exact map_eq_ok_iff.mpr ⟨mode, readColor_eq_ok_iff.mpr rfl, rfl⟩
    | container name htext =>
      refine (ofArgument_option (.tail _ (.tail _ (.tail _ (.head _)))) _).trans ?_
      exact map_eq_ok_iff.mpr ⟨_, hname htext, rfl⟩
    | containerNamespace name htext =>
      refine (ofArgument_option (.tail _ (.tail _ (.tail _ (.tail _ (.head _))))) _).trans ?_
      exact map_eq_ok_iff.mpr ⟨_, hname htext, rfl⟩
    | addUsing name htext =>
      refine (ofArgument_option
        (.tail _ (.tail _ (.tail _ (.tail _ (.tail _ (.head _)))))) _).trans ?_
      exact map_eq_ok_iff.mpr ⟨_, hname htext, rfl⟩
    | noAttributes => rfl
    | keepOrder => rfl
    | lenientMarkers => rfl
    | manifest hhead =>
      -- none of the three flags can be the path
      have hflag : ∀ flag : String, flag.toList.head? = some '-' → arg ≠ flag := by
        rintro flag hflag rfl
        exact hhead hflag
      rw [ofArgument_of_not_option (readOption?_of_head hhead), if_neg (hflag _ (by decide)),
        if_neg (hflag _ (by decide)), if_neg (hflag _ (by decide)), if_neg hhead]

/-! ## §3 — rows of units -/

/-- What units say, one after another. -/
def Draft.addAll (draft : Draft) : List Item → Except UsageError Draft
  | [] => .ok draft
  | item :: items => (draft.add item).bind (·.addAll items)

/-- An argument other than `-o` is a unit on its own. -/
theorem readItems_cons_of_ne {draft : Draft} {arg : String} {args : List String} (h : arg ≠ "-o") :
    readItems draft (arg :: args) =
      ((Item.ofArgument arg).bind draft.add).bind (readItems · args) := by
  cases args with
  | nil =>
    rw [readItems, if_neg h]
    cases (Item.ofArgument arg).bind draft.add <;> rfl
  | cons next rest =>
    rw [readItems, if_neg h]
    cases (Item.ofArgument arg).bind draft.add <;> rfl

/-- No unit on its own is written as `-o`. -/
theorem Item.Written.arg_ne {item : Item} {arg : String} (h : item.Written arg) :
    arg ≠ "-o" := by
  rintro rfl
  have hnone : Item.ofArgument "-o" = .error (.unknownOption "-o") := rfl
  rw [ofArgument_eq_ok_iff.mpr h] at hnone
  exact nomatch hnone

/-- A row of units is read unit by unit. Induction on the row. -/
theorem readItems_of_units {items : List Item} {args : List String} (h : Units items args)
    (draft : Draft) : readItems draft args = draft.addAll items := by
  induction h generalizing draft with
  | nil => rfl
  | directoryAfter path _ ih =>
    rw [readItems, if_pos rfl]
    exact ih _
  | @cons item items arg args hitem _ ih =>
    rw [readItems_cons_of_ne hitem.arg_ne, ofArgument_eq_ok_iff.mpr hitem]
    exact congrArg (draft.add item).bind (funext ih)

/-- Whatever is read to the end is a row of units. Induction along the reader. -/
theorem exists_units_of_readItems {draft draft' : Draft} {args : List String}
    (h : readItems draft args = .ok draft') : ∃ items, Units items args := by
  fun_induction readItems draft args with
  | case1 => exact ⟨[], .nil⟩
  | case2 => exact nomatch h
  | case3 draft arg hne =>
    obtain ⟨item, hitem, -⟩ := bind_eq_ok_iff.mp h
    exact ⟨[item], .cons (ofArgument_eq_ok_iff.mp hitem) .nil⟩
  -- after `-o` any argument is a path
  | case4 draft next rest draft' _ ih =>
    obtain ⟨items, hitems⟩ := ih h
    exact ⟨_, .directoryAfter next hitems⟩
  | case5 => exact nomatch h
  | case6 draft arg next rest hne draft' hadd ih =>
    obtain ⟨item, hitem, -⟩ := bind_eq_ok_iff.mp hadd
    obtain ⟨items, hitems⟩ := ih h
    exact ⟨item :: items, .cons (ofArgument_eq_ok_iff.mp hitem) hitems⟩
  | case7 => exact nomatch h

end Registrar.Command
