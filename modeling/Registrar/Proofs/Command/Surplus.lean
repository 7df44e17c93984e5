import Registrar.Proofs.Command.Settings

/-!
# Arguments that nothing looks at

The commands that compile use every argument. `help` and `version` need no further argument and
`explain` needs one, and none of them looks at what comes after that: such a command line is
accepted as if the surplus were not there.

* `Invocation.Uses` : what a command line asks for, with every argument used.
* `parse_eq_ok_iff` : accepted are these, and for some commands any arguments after them.
* `surplus_accepted` : a surplus argument is not always refused.
-/

namespace Registrar.Command

def helpWords : List String := ["help", "--help", "-h"]

def versionWords : List String := ["version", "--version", "-V"]

def explainWords : List String := ["--explain", "explain"]

/-- Every argument has a part in what is asked for. -/
inductive Invocation.Uses : Invocation → List String → Prop
  | nothing : Uses { action := .help } []
  | help {word : String} (h : word ∈ helpWords) : Uses { action := .help } [word]
  | version {word : String} (h : word ∈ versionWords) : Uses { action := .version } [word]
  | explain {word : String} (h : word ∈ explainWords) (code : String) :
    Uses { action := .explain code } [word, code]
  | compile {command path : String} {action : String → Action} {items : List Item}
    {args : List String} {settings : Settings} (h : Compiles command action)
    (units : Units items args) (manifest : unitsFor .manifest items = [.manifest path])
    (set : settings.SetBy items) : Uses ⟨action path, settings⟩ (command :: args)

/-- What comes after these arguments is not looked at. -/
def IgnoresMore (used : List String) : Prop :=
  ∃ word ∈ used.head?, word ∈ helpWords ++ versionWords ++ explainWords

/-! ## The commands that do not compile -/

variable {word : String}

/-- Whatever comes after it, a word for help is all that counts. -/
theorem parse_help (h : word ∈ helpWords) (more : List String) :
    parse (word :: more) = .ok { action := .help } := by
  simp only [helpWords, List.mem_cons, List.not_mem_nil, or_false] at h
  rcases h with rfl | rfl | rfl <;> rfl

/-- So is a word for the version. -/
theorem parse_version (h : word ∈ versionWords) (more : List String) :
    parse (word :: more) = .ok { action := .version } := by
  simp only [versionWords, List.mem_cons, List.not_mem_nil, or_false] at h
  rcases h with rfl | rfl | rfl <;> rfl

theorem parse_explain (h : word ∈ explainWords) (code : String) (more : List String) :
    parse (word :: code :: more) = .ok { action := .explain code } := by
  simp only [explainWords, List.mem_cons, List.not_mem_nil, or_false] at h
  rcases h with rfl | rfl <;> rfl

/-- A command that compiles looks at all of its arguments. -/
theorem not_ignoresMore_of_compiles {action : String → Action} (h : Compiles word action)
    (args : List String) : ¬ IgnoresMore (word :: args) := by
  rintro ⟨_, hword, hmem⟩
  obtain rfl := Option.some.inj hword
  cases h <;> exact absurd hmem (by decide)

/-- The words that a command line that is accepted can begin with. -/
theorem word_cases {args : List String} {invocation : Invocation}
    (h : parse (word :: args) = .ok invocation) :
    (∃ action, Compiles word action) ∨ word ∈ helpWords ∨ word ∈ versionWords ∨
      word ∈ explainWords ∧ ∃ code more, args = code :: more := by
  by_cases hgenerate : word = "generate"
  · exact Or.inl ⟨Action.generate, hgenerate ▸ .generate⟩
  by_cases hcheck : word = "check"
  · exact Or.inl ⟨Action.check, hcheck ▸ .check⟩
  unfold parse at h
  dsimp only at h
  rw [if_neg hgenerate, if_neg hcheck] at h
  -- the words are looked for in this order
  split at h
  · next hexplain =>
    cases args with
    | nil => exact nomatch h
    | cons code more => exact Or.inr (Or.inr (Or.inr ⟨hexplain, code, more, rfl⟩))
  split at h
  · next hhelp => exact Or.inr (Or.inl hhelp)
  split at h
  · next hversion => exact Or.inr (Or.inr (Or.inl hversion))
  · exact nomatch h

/-- **Accepted are the command lines that use every argument and, for the commands that do not
compile, any arguments after these.** -/
theorem parse_eq_ok_iff {args : List String} {invocation : Invocation} :
    parse args = .ok invocation ↔
      ∃ used surplus, args = used ++ surplus ∧ invocation.Uses used ∧
        (surplus = [] ∨ IgnoresMore used) := by
  constructor
  · intro h
    cases args with
    | nil =>
      obtain rfl := Except.ok.inj h
      exact ⟨[], [], rfl, .nothing, Or.inl rfl⟩
    | cons word args =>
      -- the first word decides which command it is
      rcases word_cases h with ⟨action, hcompiles⟩ | hhelp | hversion | ⟨hexplain, code, more, rfl⟩
      · obtain ⟨items, path, hunits, hmanifest, haction, hset⟩ :=
          (parse_compiles_eq_ok_iff hcompiles).mp h
        refine ⟨word :: args, [], (List.append_nil _).symm, ?_, Or.inl rfl⟩
        obtain ⟨_, settings⟩ := invocation
        obtain rfl := haction
        exact .compile hcompiles hunits hmanifest hset
      · obtain rfl := Except.ok.inj ((parse_help hhelp args).symm.trans h)
        exact ⟨[word], args, rfl, .help hhelp, Or.inr ⟨word, rfl, by simp [hhelp]⟩⟩
      · obtain rfl := Except.ok.inj ((parse_version hversion args).symm.trans h)
        exact ⟨[word], args, rfl, .version hversion, Or.inr ⟨word, rfl, by simp [hversion]⟩⟩
      · obtain rfl := Except.ok.inj ((parse_explain hexplain code more).symm.trans h)
        exact ⟨[word, code], more, rfl, .explain hexplain code,
          Or.inr ⟨word, rfl, by simp [hexplain]⟩⟩
  · rintro ⟨used, surplus, rfl, huses, hsurplus⟩
    -- a surplus is let pass by the command that the used arguments name
    cases huses with
    | nothing =>
      rcases hsurplus with rfl | ⟨_, hword, -⟩
      · rfl
      · exact nomatch hword
    | help h => exact parse_help h surplus
    | version h => exact parse_version h surplus
    | explain h code => exact parse_explain h code surplus
    | compile hcompiles hunits hmanifest hset =>
      rcases hsurplus with rfl | hignores
      · rw [List.append_nil]
        exact (parse_compiles_eq_ok_iff hcompiles).mpr ⟨_, _, hunits, hmanifest, rfl, hset⟩
      · exact absurd hignores (not_ignoresMore_of_compiles hcompiles _)

/-- A surplus argument is not always refused. -/
theorem surplus_accepted :
    parse ["help", "extra"] = .ok { action := .help } ∧
      ¬ ∃ invocation : Invocation, invocation.Uses ["help", "extra"] := by
  refine ⟨rfl, ?_⟩
  rintro ⟨invocation, huses⟩
  cases huses with
  | explain h => exact absurd h (by decide)
  | compile h => exact not_ignoresMore_of_compiles h ["extra"] ⟨"help", rfl, by decide⟩

end Registrar.Command
