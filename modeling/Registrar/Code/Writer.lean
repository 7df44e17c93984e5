import Registrar.Code.Names
import Registrar.Code.Options

/-!
# Writing generated code

A generated file is written by a script, a list of steps. A step writes lines and may change how
deep the lines after it are indented, which blocks are open, and which local names are taken; this
state is the `Writer`. Lines stay data until the file is done.

* `toList_renderAll_cons`, `renderAll_append` : lines are written one after another.
* `run_append` : a script in two parts is run part after part.
-/

namespace Registrar.Code

/-- A line of a file, and how deep it is indented. -/
structure Line where
  depth : Nat
  text : String
deriving DecidableEq, Repr

namespace Line

/-- A line without anything on it. -/
def blank : Line := ⟨0, ""⟩

/-- A line as written: four spaces for each level, the text, and the line end. -/
def render (line : Line) : String :=
  String.ofList (List.replicate (4 * line.depth) ' ') ++ line.text ++ "\n"

/-- Lines as written. -/
def renderAll (lines : List Line) : String := String.join (lines.map render)

end Line

/-- The first line is written with its indentation, and a line end comes after it. -/
theorem toList_renderAll_cons (depth : Nat) (line : String) (lines : List Line) :
    (Line.renderAll (⟨depth, line⟩ :: lines)).toList =
      (List.replicate (4 * depth) ' ' ++ line.toList) ++ '\n' :: (Line.renderAll lines).toList := by
  simp [Line.renderAll, Line.render, String.join_cons]

theorem renderAll_append (a b : List Line) :
    Line.renderAll (a ++ b) = Line.renderAll a ++ Line.renderAll b := by
  simp [Line.renderAll, String.join_append]

/-- One step in writing a file. -/
inductive Step where
  /-- Write a line. -/
  | line (text : String)
  /-- Write a line without anything on it. -/
  | blank
  /-- Go one level deeper. -/
  | indent
  /-- Go one level back. -/
  | dedent
  /-- Write a line and an opening brace, and go one level deeper. -/
  | openBlock (heading : String)
  /-- Go one level back, and write a closing brace. -/
  | closeBlock
  /-- Write the mark of generated files and the `using` directives, first the usual ones, then the
  extra ones; each is written once. -/
  | fileHeader (usings extra : List String)
  /-- Open the container class, within its namespace if it has one. -/
  | openContainer (options : Options)
  /-- Close the container class, and its namespace if one is open. -/
  | closeContainer
  /-- Take a new local name, and write lines that use it. -/
  | withLocal (base : String) (lines : String → List String)

/-- The state between two steps. -/
structure Writer where
  depth : Nat := 0
  /-- The namespace of the container class is open. -/
  inNamespace : Bool := false
  names : Names := {}
deriving DecidableEq, Repr, Inhabited

/-- The line that marks generated files. -/
def generatedMark : String := "// <auto-generated/>"

def headerLines (depth : Nat) (usings extra : List String) : List Line :=
  let directives := ((usings ++ extra).filter (· ≠ "")).eraseDups
  [⟨depth, generatedMark⟩, Line.blank] ++
    directives.map (fun name => ⟨depth, "using " ++ name ++ ";"⟩) ++
    (if directives.isEmpty then [] else [Line.blank])

/-- The two lines that open a block. -/
def openingLines (depth : Nat) (heading : String) : List Line :=
  [⟨depth, heading⟩, ⟨depth, "\x7b"⟩]

/-- The line that closes a block whose content is at `depth`. -/
def closingLine (depth : Nat) : Line := ⟨depth - 1, "\x7d"⟩

namespace Options

/-- The namespace to open for the container class. -/
def openNamespace? (options : Options) : Option String :=
  options.containerNamespace.filter (· ≠ "")

def containerHeading (options : Options) : String :=
  "public partial class " ++ options.containerClass

end Options

namespace Writer

def localName? (w : Writer) : Step → Option String
  | .withLocal base _ => some (w.names.fresh base)
  | _ => none

def step (w : Writer) : Step → Writer × List Line
  | .line text => (w, [⟨w.depth, text⟩])
  | .blank => (w, [Line.blank])
  | .indent => ({ w with depth := w.depth + 1 }, [])
  | .dedent => ({ w with depth := w.depth - 1 }, [])
  | .openBlock heading => ({ w with depth := w.depth + 1 }, openingLines w.depth heading)
  | .closeBlock => ({ w with depth := w.depth - 1 }, [closingLine w.depth])
  | .fileHeader usings extra => (w, headerLines w.depth usings extra)
  | .openContainer options =>
    match options.openNamespace? with
    | some name =>
      ({ w with depth := w.depth + 2, inNamespace := true },
        openingLines w.depth ("namespace " ++ name) ++
          openingLines (w.depth + 1) options.containerHeading)
    | none =>
      ({ w with depth := w.depth + 1 }, openingLines w.depth options.containerHeading)
  | .closeContainer =>
    if w.inNamespace then
      ({ w with depth := w.depth - 2, inNamespace := false },
        [closingLine w.depth, closingLine (w.depth - 1)])
    else ({ w with depth := w.depth - 1 }, [closingLine w.depth])
  | .withLocal base lines =>
    let name := w.names.fresh base
    ({ w with names := w.names.take name }, (lines name).map (⟨w.depth, ·⟩))

/-- The state after a script, and the lines that it writes. -/
def run (w : Writer) : List Step → Writer × List Line
  | [] => (w, [])
  | s :: script =>
    let (w, lines) := w.step s
    let (w, more) := run w script
    (w, lines ++ more)

/-- Steps are taken one after the other: the later ones go on where the earlier ones end. -/
theorem run_append (w : Writer) (a b : List Step) :
    w.run (a ++ b) = (((w.run a).1.run b).1, (w.run a).2 ++ ((w.run a).1.run b).2) := by
  induction a generalizing w with
  | nil => simp [run]
  | cons s a ih => simp [run, ih]

end Writer

/-- The file that a script writes. -/
def Source.ofScript (hintName : String) (script : List Step) : Source :=
  ⟨hintName, Line.renderAll (({} : Writer).run script).2⟩

end Registrar.Code
