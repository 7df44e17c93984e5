import Registrar.Code.Mangle
import Registrar.Code.Writer
import Registrar.Descriptor

/-!
# The registration routine

One statement for each descriptor, in the order given. A transient or scoped service is registered
with a function that builds it; a singleton is built first and then registered:

```text
Register<IFoo>(() => new Foo(Resolve<IBar>()));
RegisterScoped<IFoo>(() => new Foo(Resolve<IBar>()));
var instance_IFoo = new Foo(Resolve<IBar>());
RegisterSingleton<IFoo>(instance_IFoo);
```
-/

namespace Registrar.Code

/-- The file of the registration routine. -/
def registrationsHint : String := "Registry.generated.cs"

/-- The expression that builds a service from what the container resolves. -/
def construction (d : Descriptor) : String :=
  "new " ++ d.implementation.text ++ "(" ++
    ", ".intercalate (d.parameters.map fun p => "Resolve<" ++ p.text ++ ">()") ++ ")"

/-- The statements that register a service. -/
def registration (d : Descriptor) : Step :=
  match d.lifetime with
  | .transient =>
    .line ("Register<" ++ d.interface.text ++ ">(() => " ++ construction d ++ ");")
  | .perScope =>
    .line ("RegisterScoped<" ++ d.interface.text ++ ">(() => " ++ construction d ++ ");")
  | .singleton =>
    .withLocal ("instance_" ++ mangle d.interface.text) fun name =>
      ["var " ++ name ++ " = " ++ construction d ++ ";",
        "RegisterSingleton<" ++ d.interface.text ++ ">(" ++ name ++ ");"]

/-- How the registration routine is written. Descriptors without both names are left out. -/
def registrationsScript (descriptors : List Descriptor) (options : Options) : List Step :=
  [.fileHeader options.usings [], .openContainer options,
    .openBlock "partial void RegisterGeneratedServices()"] ++
  (descriptors.filter (·.isWellFormed)).map registration ++
  [.closeBlock, .closeContainer]

/-- The file of the registration routine; it is there even when it registers nothing. -/
def registrations (descriptors : List Descriptor) (options : Options) : Source :=
  .ofScript registrationsHint (registrationsScript descriptors options)

end Registrar.Code
