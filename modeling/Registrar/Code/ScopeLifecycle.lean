import Registrar.Code.Writer
import Registrar.Declaration

/-!
# The scope lifecycle routine

A node that is an instance of a scope root owns one scope from when it enters the tree until it
leaves. Types are tried in the order in which they were first declared, and the first one that
matches decides.
-/

namespace Registrar.Code

/-- The file of the scope lifecycle routine. -/
def scopeLifecycleHint : String := "ScopeLifecycle.generated.cs"

/-- The member that maps nodes to their scopes. -/
def scopeTable : String := "_scopedRoots"

/-- The names of the scope roots, without those that are empty or were met before. -/
def distinctRoots (roots : List ScopeRoot) : List TypeName :=
  ((roots.map (·.className)).filter (!·.isEmpty)).eraseDups

def rootBranch (keyword : String) (root : TypeName) : List Step :=
  [.openBlock (keyword ++ " (node is " ++ root.text ++ ")"),
    .line (scopeTable ++ "[node] = CreateScope();"), .closeBlock]

/-- The branches for the scope roots: at most one of them is taken. -/
def rootBranches : List TypeName → List Step
  | [] => []
  | first :: rest => rootBranch "if" first ++ rest.flatMap (rootBranch "else if")

/-- How the scope lifecycle routine is written. -/
def scopeLifecycleScript (roots : List TypeName) (options : Options) : List Step :=
  [.fileHeader options.usings ["System.Collections.Generic"], .openContainer options,
    .line ("private readonly Dictionary<" ++ options.nodeType ++ ", " ++ options.scopeType ++ "> " ++
      scopeTable ++ " = new();"),
    .blank,
    .openBlock "partial void RegisterScopeHandlers()",
    .line "var tree = GetTree();",
    .line "tree.NodeAdded += OnNodeAdded;",
    .line "tree.NodeRemoved += OnNodeRemoved;",
    .closeBlock,
    .blank,
    .openBlock ("private void OnNodeAdded(" ++ options.nodeType ++ " node)"),
    .openBlock ("if (" ++ scopeTable ++ ".ContainsKey(node))"),
    .line "return;",
    .closeBlock,
    .blank] ++
  rootBranches roots ++
  [.closeBlock,
    .blank,
    -- The scope leaves the table first, so that no stale entry is left if disposing it fails.
    .openBlock ("private void OnNodeRemoved(" ++ options.nodeType ++ " node)"),
    .openBlock ("if (" ++ scopeTable ++ ".Remove(node, out var scope))"),
    .line "scope.Dispose();",
    .closeBlock,
    .closeBlock,
    .closeContainer]

/-- The file of the scope lifecycle routine, if there is a scope root. -/
def scopeLifecycle (roots : List ScopeRoot) (options : Options) : Option Source :=
  match distinctRoots roots with
  | [] => none
  | names => some (.ofScript scopeLifecycleHint (scopeLifecycleScript names options))

end Registrar.Code
