import Registrar.Declaration
import Registrar.Diagnostic.Basic

/-!
# The constructor to inject through

A service is built by one of its constructors. Private and static ones never qualify. A single
marked constructor is taken whatever it asks for; without one, the constructor that asks for most
is taken, unless several ask for as many. What several marked constructors mean is a matter of
policy.
-/

namespace Registrar

/-- What to do when several qualifying constructors are marked. -/
inductive MarkerPolicy where
  /-- Take none of them. -/
  | strict
  /-- Go on as if none were marked. -/
  | fallThrough
deriving DecidableEq, Repr, Inhabited

/-- Why a constructor was taken. -/
inductive SelectionReason where
  /-- It is the only one that is marked. -/
  | marked
  /-- It alone asks for most. -/
  | greedy
deriving DecidableEq, Repr

/-- A constructor that was taken. -/
structure Selection where
  constructor : Constructor
  reason : SelectionReason
deriving DecidableEq, Repr

/-- Why no constructor was taken. -/
inductive Rejection where
  /-- None qualifies. -/
  | noneQualifies
  /-- All these are marked. -/
  | severalMarked (marked : List Constructor)
  /-- `count` constructors ask for `arity` things, and none for more. -/
  | tied (arity count : Nat)
deriving DecidableEq, Repr

namespace Service

/-- The constructors that the container may call. -/
def qualifying (service : Service) : List Constructor := service.constructors.filter (·.qualifies)

def marked (service : Service) : List Constructor := service.qualifying.filter (·.isMarked)

/-- The most that a qualifying constructor asks for. -/
def maxArity (service : Service) : Nat := (service.qualifying.map (·.arity)).foldl max 0

/-- The qualifying constructors that ask for most. -/
def greediest (service : Service) : List Constructor :=
  service.qualifying.filter (·.arity = service.maxArity)

/-- The constructor that asks for most, if there is only one such. -/
def selectGreedy (service : Service) : Except Rejection Selection :=
  match service.greediest with
  | [only] => .ok ⟨only, .greedy⟩
  | several => .error (.tied service.maxArity several.length)

/-- The constructor that the container calls. -/
def select (service : Service) (policy : MarkerPolicy) : Except Rejection Selection :=
  if service.qualifying.isEmpty then .error .noneQualifies
  else
    match service.marked, policy with
    | [only], _ => .ok ⟨only, .marked⟩
    | [], _ => service.selectGreedy
    | _, .fallThrough => service.selectGreedy
    | several, .strict => .error (.severalMarked several)

end Service

/-- The diagnostic for a service of which no constructor was taken. -/
def Rejection.report (rejection : Rejection) (service : Service) : Diagnostic :=
  match rejection with
  | noneQualifies =>
    (Diagnostic.Finding.noEligibleConstructor service.className).report service.location
  | severalMarked marked =>
    { (Diagnostic.Finding.multipleInjectionConstructors service.className marked.length).report
        service.location with
      labels := marked.filterMap fun c =>
        c.location.map fun place => ⟨place, "annotated with [Constructor]"⟩ }
  | tied arity count =>
    (Diagnostic.Finding.ambiguousConstructor service.className arity count).report service.location

end Registrar
