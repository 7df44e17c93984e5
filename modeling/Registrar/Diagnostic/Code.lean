import Registrar.Text.Blank

/-!
# Diagnostic codes

Every problem in a declaration has one of six codes. The first digit of a code tells the phase that
reports it: 1 for the choice of a constructor, 2 for the intake of declarations, 3 for the order of
registrations.
-/

namespace Registrar

/-- How grave a diagnostic is. -/
inductive Severity where
  | error
  | warning
  | note
  | help
deriving DecidableEq, Repr, Inhabited

namespace Severity

def word : Severity → String
  | error => "error"
  | warning => "warning"
  | note => "note"
  | help => "help"

end Severity

namespace Diagnostic

/-- The phase that reports a diagnostic. -/
inductive Phase where
  /-- A constructor is chosen for a service. -/
  | selection
  /-- Declarations are read off attributes. -/
  | intake
  /-- Registrations are put in order. -/
  | ordering
deriving DecidableEq, Repr

/-- The kinds of problems. -/
inductive Code where
  | noEligibleConstructor
  | ambiguousConstructor
  | multipleInjectionConstructors
  | malformedAttributeArgument
  | conflictingLifetimeMarkers
  | cyclicSingletonDependency
deriving DecidableEq, Repr, Inhabited

namespace Code

/-- Every code, in rising order of its identifier. -/
def all : List Code :=
  [noEligibleConstructor, ambiguousConstructor, multipleInjectionConstructors,
    malformedAttributeArgument, conflictingLifetimeMarkers, cyclicSingletonDependency]

/-- The identifier people search for. -/
def identifier : Code → String
  | noEligibleConstructor => "DI1001"
  | ambiguousConstructor => "DI1002"
  | multipleInjectionConstructors => "DI1003"
  | malformedAttributeArgument => "DI2001"
  | conflictingLifetimeMarkers => "DI2002"
  | cyclicSingletonDependency => "DI3001"

def ruleName : Code → String
  | noEligibleConstructor => "NoEligibleConstructor"
  | ambiguousConstructor => "AmbiguousConstructor"
  | multipleInjectionConstructors => "MultipleInjectionConstructors"
  | malformedAttributeArgument => "MalformedAttributeArgument"
  | conflictingLifetimeMarkers => "ConflictingLifetimeMarkers"
  | cyclicSingletonDependency => "CyclicSingletonDependency"

/-- The message, with a placeholder for each argument. -/
def template : Code → String
  | noEligibleConstructor =>
    "Type '\x7b0\x7d' must have at least one public constructor for dependency injection"
  | ambiguousConstructor =>
    "Type '\x7b0\x7d' has multiple constructors with \x7b1\x7d parameters; consider annotating one with [Constructor]"
  | multipleInjectionConstructors =>
    "Type '\x7b0\x7d' has \x7b1\x7d constructors annotated with [Constructor]; only one may be annotated"
  | malformedAttributeArgument =>
    "Type '\x7b0\x7d' has an invalid [\x7b1\x7d] attribute: \x7b2\x7d"
  | conflictingLifetimeMarkers =>
    "Type '\x7b0\x7d' declares more than one service lifetime: \x7b1\x7d"
  | cyclicSingletonDependency =>
    "Singleton services depend on each other in a cycle: \x7b0\x7d"

/-- The severity, unless a diagnostic states its own. -/
def severity : Code → Severity
  | ambiguousConstructor => .warning
  | noEligibleConstructor | multipleInjectionConstructors | malformedAttributeArgument
  | conflictingLifetimeMarkers | cyclicSingletonDependency => .error

def phase : Code → Phase
  | noEligibleConstructor | ambiguousConstructor | multipleInjectionConstructors => .selection
  | malformedAttributeArgument | conflictingLifetimeMarkers => .intake
  | cyclicSingletonDependency => .ordering

/-- The upper case of a character, as far as it can matter for an identifier: besides the Latin
lower case only the dotless i has an upper case in ASCII. -/
def upperChar (c : Char) : Char := if c = '\u0131' then 'I' else c.toUpper

/-- The code with this identifier, in letters of either case and with blanks around it. -/
def parse? (text : String) : Option Code :=
  let upper := String.ofList ((Text.trim text).toList.map upperChar)
  all.find? (·.identifier = upper)

theorem mem_all (code : Code) : code ∈ all := by cases code <;> decide

end Code

end Diagnostic

end Registrar
