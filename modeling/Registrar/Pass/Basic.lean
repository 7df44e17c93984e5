import Registrar.Code.Attributes
import Registrar.Code.Registrations
import Registrar.Code.ScopeLifecycle
import Registrar.Diagnostic.Collected
import Registrar.Manifest.Lowering
import Registrar.Ordering
import Registrar.Report.Terminal
import Registrar.Resolution

/-!
# One pass

A pass turns declarations into generated files. It resolves the services, orders what they
resolve to, and writes the files; what goes wrong on the way is collected, and classes that failed
are simply missing from the output. A pass over a manifest first lowers it, so its diagnostics
begin with those of the intake.
-/

namespace Registrar

/-- What a pass can be told. -/
structure Config where
  markerPolicy : MarkerPolicy := .strict
  ordering : OrderingPolicy := .dependencyOrder
  /-- The names in the generated code. -/
  code : Code.Options := {}
  /-- The attribute classes are generated too. -/
  withAttributes : Bool := true
deriving DecidableEq, Repr, Inhabited

/-- What a pass gives. -/
structure Output where
  /-- The registrations, in order. -/
  descriptors : List Descriptor
  diagnostics : Diagnostics
  /-- The files: the attributes, the registrations, the scope lifecycle. -/
  sources : List Code.Source
deriving DecidableEq, Repr

namespace Output

def hasErrors (output : Output) : Bool := output.diagnostics.hasErrors

/-- The file that goes by a name. -/
def source? (output : Output) (hintName : String) : Option Code.Source :=
  output.sources.find? (·.hintName = hintName)

/-- The diagnostics as text without colours. -/
def rendered (output : Output) : String :=
  Report.Terminal.blocks false output.diagnostics.toList

end Output

/-- The files for ordered descriptors and declared scope roots. -/
def generatedSources (config : Config) (descriptors : List Descriptor) (roots : List ScopeRoot) :
    List Code.Source :=
  (if config.withAttributes then [Code.attributes config.code] else []) ++
    [Code.registrations descriptors config.code] ++
    (Code.scopeLifecycle roots config.code).toList

/-- The pass over a batch, after the intake has reported `intake`. -/
def compileAfter (intake : Diagnostics) (batch : Batch) (config : Config) : Output :=
  let resolved := resolve batch.services config.markerPolicy
  let ordered := order resolved.descriptors config.ordering batch.locate
  { descriptors := ordered.descriptors
    diagnostics := (intake.extend resolved.diagnostics).extend ordered.diagnostics
    sources := generatedSources config ordered.descriptors batch.scopeRoots }

/-- The pass over a batch. -/
def compile (batch : Batch) (config : Config) : Output := compileAfter .empty batch config

/-- The pass over a manifest. -/
def compileManifest (manifest : Manifest) (config : Config) : Output :=
  let lowered := manifest.lower
  compileAfter (.ofList lowered.diagnostics) lowered.batch config

end Registrar
