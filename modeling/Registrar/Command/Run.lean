import Registrar.Command.Actions

/-!
# The program

From arguments to an exit status and what is written to the two output streams. Diagnostics for
people go to the error stream, diagnostics for programs to the output stream. The program fails
when a command could not be carried out, and when some diagnostic is an error.
-/

namespace Registrar.Command

/-- How the program ends. -/
structure Exit where
  status : UInt32 := 0
  stdout : String := ""
  stderr : String := ""
deriving DecidableEq, Repr

def helpLines : List String :=
  ["dic - dependency-injection registration compiler",
    "",
    "Usage: dic <command> [options]",
    "",
    "Commands:",
    "  generate <manifest.json>  Write the generated C# sources",
    "  check <manifest.json>     Report diagnostics without writing files",
    "  --explain <code>          Explain a diagnostic code (e.g., DI1002)",
    "  help                      Show this help message",
    "  version                   Show version information",
    "",
    "Options:",
    "  -o <dir>                  Output directory (default: current directory)",
    "  --format=<fmt>            Diagnostics format: human (default), json",
    "  --color=<when>            Colors: auto (default), always, never",
    "  --container=<name>        Partial container class (default: InjectionContainer)",
    "  --namespace=<ns>          Namespace of the container class",
    "  --using=<ns>              Extra using directive (repeatable)",
    "  --no-attributes           Do not generate the attribute classes",
    "  --keep-order              Register in declaration order, not dependency order",
    "  --lenient-markers         Ignore conflicting [Constructor] markers",
    "",
    "Environment:",
    "  RUST_LOG                  Enable tracing output (e.g., RUST_LOG=di_resolve=debug)",
    "",
    "Examples:",
    "  dic generate di.json -o Generated",
    "  dic check di.json --format=json",
    "  dic --explain DI3001"]

def helpText : String := String.join (helpLines.map (· ++ "\n"))

/-- The version of the program. -/
def versionText : String := "dic 0.1.0\n"

/-- The end after a failure. -/
def Failure.exit (failure : Failure) : Exit :=
  let hint :=
    match failure with
    | usage _ => "\nRun `dic help` for usage.\n"
    | _ => ""
  { status := 1, stderr := "error: " ++ failure.message ++ "\n" ++ hint }

/-- The end after a pass: its report, and whether it had errors. `note` is what else is said to
people. -/
def exitAfterPass (output : Output) (settings : Settings) (isTerminal : Bool) (note : String) :
    Exit :=
  let report := Report.text settings.format settings.color isTerminal output.diagnostics.toList
  let status := if output.hasErrors then 1 else 0
  match settings.format with
  | .human => { status, stdout := note, stderr := report }
  | .json => { status, stdout := report }

/-- The note on the files that `generate` installed. -/
def Generated.note (generated : Generated) (directory : String) : String :=
  "Generated " ++ toString generated.written.length ++ " file(s) in " ++ directory ++ " (" ++
    toString generated.unchanged.length ++ " unchanged)\n"

section

variable {m : Type → Type} [Monad m] [FileSystem m]

/-- Carry out a command. `isTerminal` tells whether the error stream is a terminal. -/
def perform (isTerminal : Bool) (invocation : Invocation) : m Exit := do
  let settings := invocation.settings
  match invocation.action with
  | .help => return { stdout := helpText }
  | .version => return { stdout := versionText }
  | .explain code =>
    match explain code with
    | .error failure => return failure.exit
    | .ok page => return { stdout := page ++ "\n" }
  | .check path =>
    match ← check path settings.config with
    | .error failure => return failure.exit
    | .ok output => return exitAfterPass output settings isTerminal ""
  | .generate path =>
    let directory := settings.outputDirectory.getD "."
    match ← generate path directory settings.config with
    | .error failure => return failure.exit
    | .ok generated =>
      return exitAfterPass generated.output settings isTerminal (generated.note directory)

/-- The program with the arguments after its name. -/
def run (isTerminal : Bool) (args : List String) : m Exit :=
  match parse args with
  | .error cause => return (Failure.usage cause).exit
  | .ok invocation => perform isTerminal invocation

end

end Registrar.Command
