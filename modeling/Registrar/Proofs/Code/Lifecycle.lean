import Mathlib.Data.List.Induction
import Registrar.Code.ScopeLifecycle
import Registrar.Proofs.Code.Nesting
import Registrar.Proofs.Code.Statements
import Registrar.Proofs.Lists

/-!
# The lifecycle routine shows its scope roots

The method for new nodes has one branch for each name of a scope root, in the order in which the
names are first met. The branches are one chain, so that a node is given one scope at most. All that
is around the chain is decided by the options, and the branches tell the names; so the files are the
same exactly when the names are.

* `FirstSeen` : the names of scope roots in the order in which they are first met.
* `firstSeen_iff` : these are the names that the branches are written for.
* `run_nodeAdded` : the lines of the method for new nodes.
* `eq_of_chainLines_eq` : the branches tell the names.
* `lifecycle_shows_roots` : the whole file.
-/

namespace Registrar.Code

/-! ## §1 — the names -/

/-- The names that are met in a list of scope roots. One without a name is passed over, and so is
one that was met before. -/
inductive FirstSeen : List ScopeRoot → List TypeName → Prop where
  | nil : FirstSeen [] []
  | unnamed {roots : List ScopeRoot} {names : List TypeName} {root : ScopeRoot}
      (hroots : FirstSeen roots names) (hunnamed : root.className.text = "") :
      FirstSeen (roots ++ [root]) names
  | again {roots : List ScopeRoot} {names : List TypeName} {root : ScopeRoot}
      (hroots : FirstSeen roots names) (hseen : root.className ∈ names) :
      FirstSeen (roots ++ [root]) names
  | new {roots : List ScopeRoot} {names : List TypeName} {root : ScopeRoot}
      (hroots : FirstSeen roots names) (hnamed : root.className.text ≠ "")
      (hnew : root.className ∉ names) :
      FirstSeen (roots ++ [root]) (names ++ [root.className])

variable {roots roots' : List ScopeRoot} {names names' : List TypeName}

theorem mem_distinctRoots {name : TypeName} :
    name ∈ distinctRoots roots ↔ name.text ≠ "" ∧ ∃ root ∈ roots, root.className = name := by
  rw [distinctRoots, List.mem_eraseDups, List.mem_filter, List.mem_map, Bool.not_eq_true',
    ← Bool.not_eq_true, TypeName.isEmpty_iff, and_comm]

/-- There is no branch if no scope root has a name. -/
theorem distinctRoots_eq_nil_iff :
    distinctRoots roots = [] ↔ ∀ root ∈ roots, root.className.text = "" := by
  simp only [List.eq_nil_iff_forall_not_mem, mem_distinctRoots]
  constructor
  · intro h root hroot
    by_contra hnamed
    exact h root.className ⟨hnamed, root, hroot, rfl⟩
  · rintro h name ⟨hnamed, root, hroot, rfl⟩
    exact hnamed (h root hroot)

/-- A scope root without a name adds no branch. -/
theorem distinctRoots_of_unnamed {root : ScopeRoot} (h : root.className.text = "") :
    distinctRoots (roots ++ [root]) = distinctRoots roots := by
  have hnone : [root.className].filter (!·.isEmpty) = [] := by simp [TypeName.isEmpty_iff.mpr h]
  rw [distinctRoots, List.map_append, List.filter_append, List.map_singleton, hnone,
    List.append_nil, distinctRoots]

/-- One more scope root with a name is one more name, unless it was met before. -/
theorem distinctRoots_of_named {root : ScopeRoot} (h : root.className.text ≠ "") :
    distinctRoots (roots ++ [root]) =
      distinctRoots roots ++
        if root.className ∈ distinctRoots roots then [] else [root.className] := by
  have hone : [root.className].filter (!·.isEmpty) = [root.className] := by
    simp [mt TypeName.isEmpty_iff.mp h]
  rw [distinctRoots, List.map_append, List.filter_append, List.map_singleton, hone,
    eraseDups_append_singleton]
  simp only [distinctRoots, List.mem_eraseDups]

/-- **These are the names that the branches are written for.** -/
theorem firstSeen_iff : FirstSeen roots names ↔ names = distinctRoots roots := by
  constructor
  · intro h
    -- each rule for one more scope root is what the code does with it
    induction h with
    | nil => rfl
    | unnamed _ hunnamed ih => rw [distinctRoots_of_unnamed hunnamed, ih]
    | @again _ _ root _ hseen ih =>
      subst ih
      rw [distinctRoots_of_named (mem_distinctRoots.mp hseen).1, if_pos hseen, List.append_nil]
    | new _ hnamed hnew ih =>
      subst ih
      rw [distinctRoots_of_named hnamed, if_neg hnew]
  · rintro rfl
    -- the last scope root decides which rule was the last one
    induction roots using List.reverseRecOn with
    | nil => exact .nil
    | append_singleton roots root ih =>
      by_cases hunnamed : root.className.text = ""
      · rw [distinctRoots_of_unnamed hunnamed]
        exact .unnamed ih hunnamed
      · rw [distinctRoots_of_named hunnamed]
        split
        · next hseen =>
          rw [List.append_nil]
          exact .again ih hseen
        · next hnew => exact .new ih hunnamed hnew

/-! ## §2 — the lines for the names -/

/-- The branch for the nodes of a type. It creates one scope. -/
def branchLines (depth : Nat) (keyword : String) (name : TypeName) : List Line :=
  [⟨depth, keyword ++ " (node is " ++ name.text ++ ")"⟩, ⟨depth, "\x7b"⟩,
    ⟨depth + 1, "_scopedRoots[node] = CreateScope();"⟩, ⟨depth, "\x7d"⟩]

/-- A chain of branches. All but the first one are for nodes that took none so far. -/
def chainLines (depth : Nat) (keyword : String) : List TypeName → List Line
  | [] => []
  | name :: names => branchLines depth keyword name ++ chainLines depth "else if" names

/-- The method for new nodes. A node that has a scope is given no other one. -/
def nodeAddedLines (depth : Nat) (options : Options) (names : List TypeName) : List Line :=
  [⟨depth, "private void OnNodeAdded(" ++ options.nodeType ++ " node)"⟩, ⟨depth, "\x7b"⟩,
    ⟨depth + 1, "if (_scopedRoots.ContainsKey(node))"⟩, ⟨depth + 1, "\x7b"⟩,
    ⟨depth + 2, "return;"⟩, ⟨depth + 1, "\x7d"⟩, Line.blank] ++
  chainLines (depth + 1) "if" names ++
  [⟨depth, "\x7d"⟩]

theorem run_rootBranch (w : Writer) (keyword : String) (name : TypeName) :
    w.run (rootBranch keyword name) = (w, branchLines w.depth keyword name) := rfl

/-- All branches but the first one continue the chain. Induction on the names. -/
theorem run_moreBranches (w : Writer) (names : List TypeName) :
    w.run (names.flatMap (rootBranch "else if")) = (w, chainLines w.depth "else if" names) := by
  induction names with
  | nil => rfl
  | cons name names ih => rw [List.flatMap_cons, Writer.run_append, run_rootBranch, ih, chainLines]

/-- **The branches are written as one chain**, and the writer is where it was. -/
theorem run_rootBranches (w : Writer) (names : List TypeName) :
    w.run (rootBranches names) = (w, chainLines w.depth "if" names) := by
  cases names with
  | nil => rfl
  | cons name names =>
    rw [rootBranches, Writer.run_append, run_rootBranch, run_moreBranches, chainLines]

/-- The steps of the method for new nodes up to the branches. -/
def guardSteps (options : Options) : List Step :=
  [.openBlock ("private void OnNodeAdded(" ++ options.nodeType ++ " node)"),
    .openBlock ("if (" ++ scopeTable ++ ".ContainsKey(node))"), .line "return;", .closeBlock, .blank]

/-- The method for new nodes is written, and the writer is back where it was. -/
theorem run_nodeAdded (w : Writer) (options : Options) (names : List TypeName)
    (finish : List Step) :
    w.run (guardSteps options ++ rootBranches names ++ .closeBlock :: finish) =
      ((w.run finish).1, nodeAddedLines w.depth options names ++ (w.run finish).2) := by
  rw [Writer.run_append, Writer.run_append, run_rootBranches, nodeAddedLines,
    List.append_assoc _ [_]]
  rfl

/-- **Between lines that the options decide stands the method for new nodes.** -/
theorem exists_lines_around (options : Options) :
    ∃ (depth : Nat) (before after : List Line), ∀ names : List TypeName,
      (({} : Writer).run (scopeLifecycleScript names options)).2 =
        before ++ nodeAddedLines depth options names ++ after := by
  -- ten steps come before the method; what they are does not matter
  obtain ⟨start, finish, hscript⟩ : ∃ start finish : List Step, ∀ names : List TypeName,
      scopeLifecycleScript names options =
        start ++ (guardSteps options ++ rootBranches names ++ .closeBlock :: finish) :=
    ⟨[_, _, _, _, _, _, _, _, _, _], _, fun _ => rfl⟩
  refine ⟨(({} : Writer).run start).1.depth, (({} : Writer).run start).2,
    ((({} : Writer).run start).1.run finish).2, fun names => ?_⟩
  rw [hscript, Writer.run_append, run_nodeAdded, List.append_assoc]

/-! ## §3 — what the branches tell -/

/-- No line of a branch goes over its end if the name of its type does not. -/
theorem not_mem_branchLines {depth : Nat} {keyword : String} {name : TypeName}
    (hkeyword : '\n' ∉ keyword.toList) (hname : '\n' ∉ name.text.toList) :
    ∀ line ∈ branchLines depth keyword name, '\n' ∉ line.chars := by
  simp [branchLines, Line.chars, not_mem_indentation, hkeyword, hname]

/-- Nor does a line of a chain. Induction on the names. -/
theorem not_mem_chainLines {depth : Nat} {keyword : String} (hkeyword : '\n' ∉ keyword.toList)
    (h : ∀ name ∈ names, '\n' ∉ name.text.toList) :
    ∀ line ∈ chainLines depth keyword names, '\n' ∉ line.chars := by
  induction names generalizing keyword with
  | nil => exact fun _ hline => absurd hline List.not_mem_nil
  | cons name names ih =>
    obtain ⟨hname, hnames⟩ := List.forall_mem_cons.mp h
    exact List.forall_mem_append.mpr
      ⟨not_mem_branchLines hkeyword hname, ih (by decide) hnames⟩

/-- The heading of a branch tells the type. -/
theorem eq_of_heading_eq {keyword : String} {name name' : TypeName}
    (h : keyword ++ " (node is " ++ name.text ++ ")" =
      keyword ++ " (node is " ++ name'.text ++ ")") : name = name' := by
  have htext := (String.append_right_inj _).mp ((String.append_left_inj _).mp h)
  exact TypeName.eq_of_toList_eq (congrArg String.toList htext)

/-- **The branches tell the names.** Induction on the names: each takes up as many lines as any
other. -/
theorem eq_of_chainLines_eq {depth : Nat} {keyword : String}
    (h : (chainLines depth keyword names).map Line.chars =
      (chainLines depth keyword names').map Line.chars) : names = names' := by
  induction names generalizing keyword names' with
  | nil =>
    cases names' with
    | nil => rfl
    | cons name' names' => exact nomatch h
  | cons name names ih =>
    cases names' with
    | nil => exact nomatch h
    | cons name' names' =>
      rw [chainLines, chainLines, List.map_append, List.map_append] at h
      -- four lines are the first branch on either side
      obtain ⟨hbranch, hmore⟩ := List.append_inj h rfl
      have hheading := List.append_cancel_left (List.head_eq_of_cons_eq hbranch)
      rw [eq_of_heading_eq (String.toList_inj.mp hheading), ih hmore]

/-- The method for new nodes tells the names. -/
theorem eq_of_renderAll_nodeAddedLines_eq {depth : Nat} {options : Options}
    (h : ∀ name ∈ names, '\n' ∉ name.text.toList) (h' : ∀ name ∈ names', '\n' ∉ name.text.toList)
    (heq : Line.renderAll (nodeAddedLines depth options names) =
      Line.renderAll (nodeAddedLines depth options names')) : names = names' := by
  simp only [nodeAddedLines, renderAll_append] at heq
  -- what the options put into the heading of the method may have line ends, so it is left out first
  have hchain := (String.append_right_inj _).mp ((String.append_left_inj _).mp heq)
  have hlines := congrArg textLines hchain
  rw [textLines_renderAll (not_mem_chainLines (by decide) h),
    textLines_renderAll (not_mem_chainLines (by decide) h')] at hlines
  exact eq_of_chainLines_eq (List.append_cancel_right hlines)

/-! ## §4 — the file -/

/-- There is no file if there is no branch. -/
theorem scopeLifecycle_eq_none_iff {options : Options} :
    scopeLifecycle roots options = none ↔ distinctRoots roots = [] := by
  unfold scopeLifecycle
  split
  · next hnone => exact iff_of_true rfl hnone
  · next hsome => exact iff_of_false (Option.some_ne_none _) hsome

/-- Otherwise the file is what its script writes. -/
theorem scopeLifecycle_of_ne_nil {options : Options} (h : distinctRoots roots ≠ []) :
    scopeLifecycle roots options =
      some (.ofScript scopeLifecycleHint (scopeLifecycleScript (distinctRoots roots) options)) := by
  unfold scopeLifecycle
  split
  · next hnone => exact absurd hnone h
  · rfl

/-- Where no name has a line end in it, the file tells the names. -/
theorem scopeLifecycle_eq_iff {options : Options}
    (h : ∀ root ∈ roots, '\n' ∉ root.className.text.toList)
    (h' : ∀ root ∈ roots', '\n' ∉ root.className.text.toList) :
    scopeLifecycle roots options = scopeLifecycle roots' options ↔
      distinctRoots roots = distinctRoots roots' := by
  have hplain : ∀ {list : List ScopeRoot}, (∀ root ∈ list, '\n' ∉ root.className.text.toList) →
      ∀ name ∈ distinctRoots list, '\n' ∉ name.text.toList := by
    intro list hlist name hname
    obtain ⟨-, root, hroot, rfl⟩ := mem_distinctRoots.mp hname
    exact hlist root hroot
  constructor
  · intro heq
    -- there is no file for either, or one for both
    by_cases hnil : distinctRoots roots = []
    · have hnil' : distinctRoots roots' = [] :=
        scopeLifecycle_eq_none_iff.mp (heq ▸ scopeLifecycle_eq_none_iff.mpr hnil)
      rw [hnil, hnil']
    · have hne' : distinctRoots roots' ≠ [] := fun hnil' =>
        hnil (scopeLifecycle_eq_none_iff.mp (heq.trans (scopeLifecycle_eq_none_iff.mpr hnil')))
      obtain ⟨depth, before, after, hrun⟩ := exists_lines_around options
      rw [scopeLifecycle_of_ne_nil hnil, scopeLifecycle_of_ne_nil hne'] at heq
      have htext := congrArg Source.text (Option.some.inj heq)
      simp only [Source.ofScript, hrun, renderAll_append] at htext
      have hmethod := (String.append_right_inj _).mp ((String.append_left_inj _).mp htext)
      exact eq_of_renderAll_nodeAddedLines_eq (hplain h) (hplain h') hmethod
  · intro heq
    simp only [scopeLifecycle, heq]

/-- **The lifecycle routine shows its scope roots.** There is none if no scope root has a name. Around
the method for new nodes the lines are decided by the options, and in it each name that is met has
one branch. Where no name has a line end in it, the routines are the same exactly when the names are
met in the same order. -/
theorem lifecycle_shows_roots (options : Options) :
    ∃ (depth : Nat) (before after : List Line), ∀ roots : List ScopeRoot, ∃ names : List TypeName,
      FirstSeen roots names ∧
      (scopeLifecycle roots options = none ↔ ∀ root ∈ roots, root.className.text = "") ∧
      (∀ source, scopeLifecycle roots options = some source →
        source.hintName = scopeLifecycleHint ∧
        source.text =
          Line.renderAll (before ++ nodeAddedLines depth options names ++ after)) ∧
      ∀ (roots' : List ScopeRoot) (names' : List TypeName), FirstSeen roots' names' →
        (∀ root ∈ roots ++ roots', '\n' ∉ root.className.text.toList) →
        (scopeLifecycle roots options = scopeLifecycle roots' options ↔ names = names') := by
  obtain ⟨depth, before, after, hrun⟩ := exists_lines_around options
  refine ⟨depth, before, after, fun roots => ⟨distinctRoots roots, firstSeen_iff.mpr rfl, ?_, ?_,
    fun roots' names' hseen hplain => ?_⟩⟩
  · rw [scopeLifecycle_eq_none_iff, distinctRoots_eq_nil_iff]
  · intro source hsource
    have hne : distinctRoots roots ≠ [] := by
      intro hnil
      rw [scopeLifecycle_eq_none_iff.mpr hnil] at hsource
      exact nomatch hsource
    rw [scopeLifecycle_of_ne_nil hne] at hsource
    obtain rfl := Option.some.inj hsource
    exact ⟨rfl, congrArg Line.renderAll (hrun _)⟩
  · obtain ⟨hroots, hroots'⟩ := List.forall_mem_append.mp hplain
    rw [firstSeen_iff.mp hseen]
    exact scopeLifecycle_eq_iff hroots hroots'

/-- Two scope roots of which one is declared twice, and the same two in the other order. -/
theorem lifecycle_shows_roots_in_order :
    let roots : List ScopeRoot := [⟨⟨"Game.Level"⟩, none⟩, ⟨⟨"Game.Menu"⟩, none⟩,
      ⟨⟨"Game.Level"⟩, none⟩]
    let swapped : List ScopeRoot := [⟨⟨"Game.Menu"⟩, none⟩, ⟨⟨""⟩, none⟩, ⟨⟨"Game.Level"⟩, none⟩]
    FirstSeen roots [⟨"Game.Level"⟩, ⟨"Game.Menu"⟩] ∧
      FirstSeen swapped [⟨"Game.Menu"⟩, ⟨"Game.Level"⟩] ∧
      (∀ root ∈ roots ++ swapped, '\n' ∉ root.className.text.toList) ∧
      scopeLifecycle roots {} ≠ scopeLifecycle swapped {} := by
  intro roots swapped
  have hroots : FirstSeen roots [⟨"Game.Level"⟩, ⟨"Game.Menu"⟩] := firstSeen_iff.mpr (by decide)
  have hswapped : FirstSeen swapped [⟨"Game.Menu"⟩, ⟨"Game.Level"⟩] :=
    firstSeen_iff.mpr (by decide)
  have hplain : ∀ root ∈ roots ++ swapped, '\n' ∉ root.className.text.toList := by decide
  refine ⟨hroots, hswapped, hplain, fun heq => ?_⟩
  obtain ⟨_, _, _, hlists⟩ := lifecycle_shows_roots {}
  obtain ⟨names, hnames, -, -, hiff⟩ := hlists roots
  have hsame := (hiff swapped _ hswapped hplain).mp heq
  rw [firstSeen_iff.mp hnames] at hsame
  exact absurd hsame (by decide)

end Registrar.Code
