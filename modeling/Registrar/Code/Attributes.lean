import Registrar.Code.Writer
import Registrar.Lifetime

/-!
# The attribute classes

The classes by which declarations are marked: one for each lifetime, which takes the service type,
and one each for constructors and scope roots.
-/

namespace Registrar.Code

/-- The file of the attribute classes. -/
def attributesHint : String := "ServiceAttributes.generated.cs"

/-- The class of the attribute that gives a lifetime. -/
def lifetimeAttribute (lifetime : Lifetime) : List Step :=
  let name := lifetime.markerName ++ "Attribute"
  [.line "[AttributeUsage(AttributeTargets.Class)]",
    .openBlock ("public sealed class " ++ name ++ " : Attribute"),
    .line ("public " ++ name ++ "(Type serviceType) => ServiceType = serviceType;"),
    .blank,
    .line "public Type ServiceType \x7b get; \x7d",
    .closeBlock,
    .blank]

/-- The class of an attribute without arguments. -/
def plainAttribute (target name : String) : List Step :=
  [.line ("[AttributeUsage(AttributeTargets." ++ target ++ ")]"),
    .openBlock ("public sealed class " ++ name ++ " : Attribute"),
    .closeBlock]

/-- How the attribute classes are written. -/
def attributesScript (options : Options) : List Step :=
  [.fileHeader [] ["System"], .openBlock ("namespace " ++ options.attributeNamespace)] ++
  Lifetime.all.flatMap lifetimeAttribute ++
  plainAttribute "Constructor" "ConstructorAttribute" ++
  [.blank] ++
  plainAttribute "Class" "ScopeRootAttribute" ++
  [.closeBlock]

/-- The file of the attribute classes. -/
def attributes (options : Options) : Source :=
  .ofScript attributesHint (attributesScript options)

end Registrar.Code
