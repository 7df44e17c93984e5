import Registrar.Text.Segment

/-!
# Paths

The parts of a path stand between slashes. A part without characters leads nowhere, and neither does
a point, except that a point at the start of a path counts as its first part. A path that starts with
a slash is rooted: it is followed from the root and not from the working directory.
-/

namespace Registrar.Path

/-- The parts of a path, with those that lead nowhere. -/
def parts (path : String) : List String :=
  (Text.splitWhere (· = '/') path.toList).map String.ofList

def isRooted (path : String) : Bool := path.toList.head? = some '/'

/-- Nothing but slashes stands after the last part that has characters, and there is one. -/
def endsInSlash (path : String) : Bool := path.toList.getLast? = some '/'

/-- The path of what is called `name` in a directory; the empty path is the working directory. -/
def join (directory name : String) : String :=
  if directory = "" ∨ endsInSlash directory then directory ++ name else directory ++ "/" ++ name

/-- The last part of a path that has characters, and the parts before it. -/
def last? (path : String) : Option (List String × String) :=
  match (parts path).reverse.dropWhile (· = "") with
  | [] => none
  | name :: before => some (before.reverse, name)

/-- A part names the directory itself or the one that it is in. -/
def isDots (part : String) : Bool := part = "." || part = ".."

/-- What is passed when more parts are followed after `before`: one list of parts for each part that
counts. -/
def passed (before : List String) : List String → List (List String)
  | [] => []
  | part :: rest =>
    let here := before ++ [part]
    if part = "" ∨ (part = "." ∧ before ≠ []) then passed here rest
    else here :: passed here rest

/-- The directories that have to be there for a path to be one: the path itself, then the shorter
paths, down to its first part that counts. Neither the root nor the empty path is among them. -/
def chain (path : String) : List String :=
  match (passed [] (parts path)).reverse with
  | [] => []
  | _ :: shorter => path :: shorter.map "/".intercalate

end Registrar.Path
