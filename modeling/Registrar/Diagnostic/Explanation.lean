import Registrar.Diagnostic.Code

/-!
# Explanations

For each code a page that says what the problem is, shows it in a declaration, and tells how to
mend it. A page is written here line by line.
-/

namespace Registrar.Diagnostic.Code

/-- The lines of the page about a code. -/
def explanationLines : Code → List String
  | noEligibleConstructor =>
    ["# DI1001: No Eligible Constructor",
      "",
      "A class carries a service lifetime attribute, but none of its constructors can",
      "be called by the container. Private and static constructors are never",
      "candidates.",
      "",
      "## Example",
      "",
      "```csharp",
      "[TransientService(typeof(IFoo))]",
      "public class Foo : IFoo",
      "\x7b",
      "    private Foo() \x7b \x7d",
      "\x7d",
      "```",
      "",
      "```",
      "error[DI1001]: Type 'Foo' must have at least one public constructor for dependency injection",
      "```",
      "",
      "No registration is generated for `Foo`. Other services are unaffected.",
      "",
      "## Solution",
      "",
      "Make at least one instance constructor non-private:",
      "",
      "```csharp",
      "[TransientService(typeof(IFoo))]",
      "public class Foo : IFoo",
      "\x7b",
      "    public Foo() \x7b \x7d",
      "\x7d",
      "```"]
  | ambiguousConstructor =>
    ["# DI1002: Ambiguous Constructor",
      "",
      "When no constructor is annotated, the constructor with the most parameters is",
      "used. If several constructors share that greatest parameter count, none of",
      "them is preferred and the class is not registered.",
      "",
      "## Example",
      "",
      "```csharp",
      "[ScopedService(typeof(IQux))]",
      "public class Qux : IQux",
      "\x7b",
      "    public Qux(IA a) \x7b \x7d",
      "    public Qux(IB b) \x7b \x7d",
      "\x7d",
      "```",
      "",
      "```",
      "warning[DI1002]: Type 'Qux' has multiple constructors with 1 parameters; consider annotating one with [Constructor]",
      "```",
      "",
      "## Solution",
      "",
      "Annotate the constructor the container should call:",
      "",
      "```csharp",
      "[ScopedService(typeof(IQux))]",
      "public class Qux : IQux",
      "\x7b",
      "    [Constructor]",
      "    public Qux(IA a) \x7b \x7d",
      "    public Qux(IB b) \x7b \x7d",
      "\x7d",
      "```",
      "",
      "An annotated constructor is chosen even when another one takes more",
      "parameters."]
  | multipleInjectionConstructors =>
    ["# DI1003: Multiple Injection Constructors",
      "",
      "More than one eligible constructor of the class is annotated with",
      "`[Constructor]`. The annotation exists to pick exactly one constructor, so",
      "multiple annotations are rejected rather than silently ignored.",
      "",
      "## Example",
      "",
      "```csharp",
      "[SingletonService(typeof(IClock))]",
      "public class Clock : IClock",
      "\x7b",
      "    [Constructor]",
      "    public Clock() \x7b \x7d",
      "",
      "    [Constructor]",
      "    public Clock(ITimeSource source) \x7b \x7d",
      "\x7d",
      "```",
      "",
      "```",
      "error[DI1003]: Type 'Clock' has 2 constructors annotated with [Constructor]; only one may be annotated",
      "```",
      "",
      "## Solution",
      "",
      "Keep the annotation on a single constructor.",
      "",
      "Passing `--lenient-markers` to `dic` restores the older behaviour, where",
      "several annotations are ignored and the constructor with the most parameters",
      "is chosen."]
  | malformedAttributeArgument =>
    ["# DI2001: Malformed Attribute Argument",
      "",
      "A service lifetime attribute must name the service type the class is",
      "registered under. The argument is missing, empty, or the class itself has no",
      "name in the declaration manifest.",
      "",
      "## Example",
      "",
      "```csharp",
      "[SingletonService(null)]",
      "public class Settings : ISettings \x7b \x7d",
      "```",
      "",
      "```",
      "error[DI2001]: Type 'Settings' has an invalid [SingletonService] attribute: missing service type",
      "```",
      "",
      "The class is skipped entirely.",
      "",
      "## Solution",
      "",
      "Pass the service type, either bare or wrapped in `typeof`:",
      "",
      "```csharp",
      "[SingletonService(typeof(ISettings))]",
      "public class Settings : ISettings \x7b \x7d",
      "```"]
  | conflictingLifetimeMarkers =>
    ["# DI2002: Conflicting Lifetime Markers",
      "",
      "A class may be registered with exactly one lifetime. Declaring more than one",
      "of `[TransientService]`, `[ScopedService]` and `[SingletonService]` makes the",
      "intended lifetime unknowable.",
      "",
      "## Example",
      "",
      "```csharp",
      "[TransientService(typeof(ILog))]",
      "[SingletonService(typeof(ILog))]",
      "public class Log : ILog \x7b \x7d",
      "```",
      "",
      "```",
      "error[DI2002]: Type 'Log' declares more than one service lifetime: TransientService, SingletonService",
      "```",
      "",
      "The class is skipped entirely.",
      "",
      "## Solution",
      "",
      "Remove all but one lifetime attribute."]
  | cyclicSingletonDependency =>
    ["# DI3001: Cyclic Singleton Dependency",
      "",
      "Singletons are constructed while the container registers services, so every",
      "service a singleton needs must already be registered when it is created.",
      "Registrations are reordered to satisfy this. When singletons need each other",
      "in a cycle, directly or through transient and scoped services, no order can",
      "work.",
      "",
      "## Example",
      "",
      "```csharp",
      "[SingletonService(typeof(IA))]",
      "public class A : IA \x7b public A(IB b) \x7b \x7d \x7d",
      "",
      "[SingletonService(typeof(IB))]",
      "public class B : IB \x7b public B(IA a) \x7b \x7d \x7d",
      "```",
      "",
      "```",
      "error[DI3001]: Singleton services depend on each other in a cycle: A -> B -> A",
      "```",
      "",
      "Both services are still registered, in declaration order, and construction",
      "will fail at start-up.",
      "",
      "## Solution",
      "",
      "Break the cycle. Register one of the services as transient or scoped, or",
      "remove one of the constructor dependencies."]

/-- The page about a code. -/
def explanation (code : Code) : String := String.join (code.explanationLines.map (· ++ "\n"))

end Registrar.Diagnostic.Code
