import Registrar.Diagnostic.Code
import Registrar.Location
import Registrar.Text.Template
import Registrar.TypeName

/-!
# Diagnostics

A diagnostic says what is wrong with a declaration: a code with the arguments of its message, the
place of the class, and labels, notes and suggestions that explain it. `Finding` lists the problems
that the phases find; `Finding.report` is the one place that puts each of them into words.
-/

namespace Registrar

/-- A place that has to do with a problem, and what is there. -/
structure Label where
  location : Location
  message : String
deriving DecidableEq, Repr

/-- A problem, ready to be shown. -/
structure Diagnostic where
  code : Diagnostic.Code
  severity : Severity
  /-- The arguments of the message. -/
  args : List String
  /-- Where the class is declared, if known. -/
  location : Option Location
  /-- Other places that matter. -/
  labels : List Label
  notes : List String
  /-- Ways to mend it. -/
  suggestions : List String
deriving DecidableEq, Repr

namespace Diagnostic

/-- A diagnostic with the code's own severity and nothing else. -/
def ofCode (code : Code) (location : Option Location) : Diagnostic :=
  { code, severity := code.severity, args := [], location, labels := [], notes := [],
    suggestions := [] }

/-- The message of the code with the arguments filled in. -/
def message (d : Diagnostic) : String := Text.render d.code.template d.args

def isError (d : Diagnostic) : Bool := d.severity = .error

def isWarning (d : Diagnostic) : Bool := d.severity = .warning

/-- The diagnostic as lines of text, the last one without its line end. -/
def text (d : Diagnostic) : String :=
  d.severity.word ++ " [" ++ d.code.identifier ++ "]: " ++ d.message ++
    String.join (d.location.toList.map fun place => "\n  --> " ++ place.text) ++
    String.join (d.labels.map fun label => "\n      " ++ label.location.text ++ ": " ++
      label.message) ++
    String.join (d.notes.map ("\n  = note: " ++ ·)) ++
    String.join (d.suggestions.map ("\n  = help: " ++ ·))

instance : ToString Diagnostic := ⟨text⟩

/-- What can be wrong, with all that its report needs. -/
inductive Finding where
  /-- Only private and static constructors, or none at all. -/
  | noEligibleConstructor (className : TypeName)
  /-- `tied` constructors have the greatest number of parameters, `arity`. -/
  | ambiguousConstructor (className : TypeName) (arity tied : Nat)
  /-- `marked` constructors are marked for injection. -/
  | multipleInjectionConstructors (className : TypeName) (marked : Nat)
  /-- The argument of an attribute cannot be used. -/
  | malformedAttributeArgument (className attributeName problem : String)
  /-- More than one marker gives the class a lifetime. -/
  | conflictingLifetimeMarkers (className : TypeName) (markers : List String)
  /-- Each service of the chain needs the next one; the last one is the first one again. -/
  | cyclicSingletonDependency (chain : List TypeName)
deriving DecidableEq, Repr

namespace Finding

def code : Finding → Code
  | noEligibleConstructor _ => .noEligibleConstructor
  | ambiguousConstructor .. => .ambiguousConstructor
  | multipleInjectionConstructors .. => .multipleInjectionConstructors
  | malformedAttributeArgument .. => .malformedAttributeArgument
  | conflictingLifetimeMarkers .. => .conflictingLifetimeMarkers
  | cyclicSingletonDependency _ => .cyclicSingletonDependency

/-- The arguments of the message. -/
def args : Finding → List String
  | noEligibleConstructor className => [className.simpleName]
  | ambiguousConstructor className arity _ => [className.simpleName, toString arity]
  | multipleInjectionConstructors className marked => [className.simpleName, toString marked]
  | malformedAttributeArgument className attributeName problem =>
    [className, attributeName, problem]
  | conflictingLifetimeMarkers className markers =>
    [className.simpleName, ", ".intercalate markers]
  | cyclicSingletonDependency chain => [" -> ".intercalate (chain.map (·.simpleName))]

def notes : Finding → List String
  | noEligibleConstructor _ => ["private and static constructors cannot be used for injection"]
  | ambiguousConstructor _ arity tied =>
    [toString tied ++ " constructors take " ++ toString arity ++ " parameters"]
  | cyclicSingletonDependency _ =>
    ["singletons are constructed eagerly, so none of them can be registered first"]
  | multipleInjectionConstructors .. | malformedAttributeArgument ..
  | conflictingLifetimeMarkers .. => []

def suggestions : Finding → List String
  | ambiguousConstructor .. => ["annotate the constructor to use with [Constructor]"]
  | multipleInjectionConstructors .. => ["remove [Constructor] from all but one constructor"]
  | conflictingLifetimeMarkers .. =>
    ["keep exactly one of [TransientService], [ScopedService], [SingletonService]"]
  | cyclicSingletonDependency _ =>
    ["register one of the services as transient or scoped to break the cycle"]
  | noEligibleConstructor _ | malformedAttributeArgument .. => []

/-- The diagnostic for a problem of a class that is declared at `location`. -/
def report (finding : Finding) (location : Option Location) : Diagnostic :=
  { Diagnostic.ofCode finding.code location with
    args := finding.args, notes := finding.notes, suggestions := finding.suggestions }

end Finding

end Diagnostic

end Registrar
