/-!
# Options of the generated code
-/

namespace Registrar.Code

/-- The names by which generated code reaches what is written by hand. -/
structure Options where
  /-- The partial class that the generated members belong to. -/
  containerClass : String := "InjectionContainer"
  /-- The namespace of that class; none and the empty one are the global namespace. -/
  containerNamespace : Option String := none
  /-- The `using` directives of every file but that of the attributes. -/
  usings : List String := ["Godot"]
  /-- The namespace of the attribute classes. -/
  attributeNamespace : String := "GodotDiSourceGenerator"
  /-- The type of the nodes in the tree of objects. -/
  nodeType : String := "Node"
  /-- The type of a scope. -/
  scopeType : String := "IServiceScope"
deriving DecidableEq, Repr, Inhabited

/-- A generated file: the name it goes by, and what is in it. -/
structure Source where
  hintName : String
  text : String
deriving DecidableEq, Repr

end Registrar.Code
