import Registrar.Descriptor
import Registrar.Selection

/-!
# From services to descriptors

Each service either becomes a descriptor or is reported. A service cannot become one when its class
or its service type has no name, or when no constructor is taken. Equal descriptors register the
same thing, so only the first of them is kept.
-/

namespace Registrar

/-- Why a service does not become a descriptor. -/
inductive Service.Failure where
  /-- The class has no name. -/
  | unnamedClass
  /-- The service type has no name. -/
  | unnamedServiceType
  /-- No constructor is taken. -/
  | rejected (rejection : Rejection)
deriving DecidableEq, Repr

/-- How a class without a name is called in a message. -/
def unnamedClassText : String := "<unnamed>"

namespace Service

def descriptor (service : Service) (c : Constructor) : Descriptor :=
  { implementation := service.className
    interface := service.serviceType
    lifetime := service.lifetime
    parameters := c.parameters }

/-- What becomes of a service. -/
def resolve (service : Service) (policy : MarkerPolicy) : Except Failure Descriptor :=
  if service.className.isEmpty then .error .unnamedClass
  else if service.serviceType.isEmpty then .error .unnamedServiceType
  else
    match service.select policy with
    | .ok selection => .ok (service.descriptor selection.constructor)
    | .error rejection => .error (.rejected rejection)

/-- The diagnostic for a service that does not become a descriptor. -/
def Failure.report (failure : Failure) (service : Service) : Diagnostic :=
  match failure with
  | unnamedClass =>
    (Diagnostic.Finding.malformedAttributeArgument unnamedClassText service.lifetime.markerName
      "the class has no name").report service.location
  | unnamedServiceType =>
    (Diagnostic.Finding.malformedAttributeArgument service.className.simpleName
      service.lifetime.markerName "missing service type").report service.location
  | rejected rejection => rejection.report service

/-- The diagnostic for a service, if it does not become a descriptor. -/
def diagnostic? (service : Service) (policy : MarkerPolicy) : Option Diagnostic :=
  match service.resolve policy with
  | .ok _ => none
  | .error failure => some (failure.report service)

end Service

/-- The descriptors and the diagnostics of a list of services. -/
structure Resolution where
  /-- No two of these are equal; each stands where the first service that gives it stands. -/
  descriptors : List Descriptor
  /-- One for each service without a descriptor, in the order of the services. -/
  diagnostics : List Diagnostic
deriving DecidableEq, Repr

/-- What becomes of each service of a list. -/
def resolve (services : List Service) (policy : MarkerPolicy) : Resolution :=
  { descriptors := (services.filterMap fun s => (s.resolve policy).toOption).eraseDups
    diagnostics := services.filterMap (·.diagnostic? policy) }

end Registrar
