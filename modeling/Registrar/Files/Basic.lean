import Registrar.Files.Path

/-!
# Files

What is asked of a file system: to read a whole file as text, to write one, to create a directory,
and to tell whether a path leads to one. Requests can fail, and the causes have the words that the
system has for them. Directories within directories are created by these means.
-/

namespace Registrar

/-- Why a file cannot be read or written. -/
inductive FileFailure where
  | notFound
  | alreadyExists
  | notDirectory
  | isDirectory
  /-- A part of the path, or all of it, has more bytes than the system allows. -/
  | nameTooLong
  /-- The path has the character in it that ends a path for the system. -/
  | containsNul
  /-- The file is no text. -/
  | notText
  /-- Another cause, in the words of the system. -/
  | other (text : String)
deriving DecidableEq, Repr

namespace FileFailure

/-- A cause in words, with the number of the error if the system reports one. -/
def message : FileFailure → String
  | notFound => "No such file or directory (os error 2)"
  | alreadyExists => "File exists (os error 17)"
  | notDirectory => "Not a directory (os error 20)"
  | isDirectory => "Is a directory (os error 21)"
  | nameTooLong => "File name too long (os error 36)"
  | containsNul => "file name contained an unexpected NUL byte"
  | notText => "stream did not contain valid UTF-8"
  | other text => text

end FileFailure

/-- A file system that actions in `m` can use. -/
class FileSystem (m : Type → Type) where
  /-- The whole file as text. -/
  readText (path : String) : m (Except FileFailure String)
  /-- Make `text` all that is in the file. -/
  writeText (path text : String) : m (Except FileFailure Unit)
  /-- Create a directory in one that is there. -/
  createDirectory (path : String) : m (Except FileFailure Unit)
  /-- The path leads to a directory. -/
  isDirectory (path : String) : m Bool

namespace FileSystem

variable {m : Type → Type} [Monad m] [FileSystem m]

/-- Create a directory, unless it is there. -/
def ensureDirectory (path : String) : m (Except FileFailure Unit) := do
  match ← createDirectory path with
  | .ok () => return .ok ()
  | .error cause =>
    if cause = .alreadyExists then
      if ← isDirectory path then return .ok ()
    return .error cause

/-- Create the first one of a chain of directories, each of them in the next one. The others are
looked at only when one in which the first should be is missing. -/
def ensureChain : List String → m (Except FileFailure Unit)
  | [] => return .ok ()
  | path :: outer => do
    match ← ensureDirectory path with
    | .error .notFound =>
      match ← ensureChain outer with
      | .ok () => ensureDirectory path
      | .error cause => return .error cause
    | result => return result

/-- Create a directory, and those that it is in, where they are missing. -/
def createDirectories (path : String) : m (Except FileFailure Unit) :=
  ensureChain (Path.chain path)

end FileSystem

end Registrar
