import Registrar.Command.Arguments
import Registrar.Diagnostic.Explanation
import Registrar.Files.Basic
import Registrar.Manifest.Reader

/-!
# What commands do

A command that compiles reads a manifest and runs a pass over it. `generate` also writes the files
of the pass, one after the other, even when there are errors: classes that failed are only missing
from them. A file that would not change is left alone. Problems in declarations are diagnostics;
a `Failure` means that the command could not be carried out.
-/

namespace Registrar.Command

/-- Why a command could not be carried out. -/
inductive Failure where
  | read (path : String) (cause : FileFailure)
  | write (path : String) (cause : FileFailure)
  | manifest (path : String) (cause : Json.Failure)
  | usage (cause : UsageError)
  | unknownCode (text : String)
deriving DecidableEq, Repr

/-- A failure in words. At which line and column a manifest fails to be one is left out: a reader does
not count lines, and nothing but this text would tell. -/
def Failure.message : Failure → String
  | read path cause => "cannot read " ++ path ++ ": " ++ cause.message
  | write path cause => "cannot write " ++ path ++ ": " ++ cause.message
  | manifest path cause => "invalid manifest " ++ path ++ ": " ++ cause.message
  | usage cause => cause.message
  | unknownCode text => "unknown error code '" ++ text ++ "'"

/-- The page about a diagnostic code. -/
def explain (text : String) : Except Failure String :=
  match Diagnostic.Code.parse? text with
  | some code => .ok code.explanation
  | none => .error (.unknownCode text)

/-- What `generate` did. -/
structure Generated where
  output : Output
  /-- The files that are new or were changed. -/
  written : List String := []
  /-- The files that already held what they should. -/
  unchanged : List String := []
deriving DecidableEq, Repr

section

variable {m : Type → Type} [Monad m] [FileSystem m]

/-- The manifest in a file. -/
def load (path : String) : m (Except Failure Manifest) := do
  match ← FileSystem.readText path with
  | .error cause => return .error (.read path cause)
  | .ok text =>
    match Manifest.ofJson text with
    | .error cause => return .error (.manifest path cause)
    | .ok manifest => return .ok manifest

/-- Run a pass over the manifest in a file. -/
def check (path : String) (config : Config) : m (Except Failure Output) := do
  match ← load path with
  | .error failure => return .error failure
  | .ok manifest => return .ok (compileManifest manifest config)

/-- Make a file hold a text. Answers whether it was changed for that. -/
def install (target text : String) : m (Except Failure Bool) := do
  match ← FileSystem.readText target with
  | .ok existing =>
    if existing = text then return .ok false
    else overwrite
  | .error _ => overwrite
where
  /-- Write the file, whatever is in it. -/
  overwrite : m (Except Failure Bool) := do
    match ← FileSystem.writeText target text with
    | .error cause => return .error (.write target cause)
    | .ok () => return .ok true

/-- Install generated files one after the other, up to the first one that fails. -/
def installAll (directory : String) (done : Generated) :
    List Code.Source → m (Except Failure Generated)
  | [] => return .ok done
  | source :: rest => do
    let target := Path.join directory source.hintName
    match ← install target source.text with
    | .error failure => return .error failure
    | .ok true => installAll directory { done with written := done.written ++ [target] } rest
    | .ok false => installAll directory { done with unchanged := done.unchanged ++ [target] } rest

/-- Run a pass over the manifest in a file, and install its files in a directory. -/
def generate (path directory : String) (config : Config) : m (Except Failure Generated) := do
  match ← check path config with
  | .error failure => return .error failure
  | .ok output =>
    match ← FileSystem.createDirectories directory with
    | .error cause => return .error (.write directory cause)
    | .ok () => installAll directory { output } output.sources

end

end Registrar.Command
