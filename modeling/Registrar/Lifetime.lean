/-!
# Lifetimes

How many instances of a service there are. A class gets its lifetime by one of three markers.
-/

namespace Registrar

/-- How many instances of a service the container makes and shares. -/
inductive Lifetime where
  /-- A new instance whenever the service is asked for. -/
  | transient
  /-- One instance in each scope. -/
  | perScope
  /-- One instance, built when the service is registered. -/
  | singleton
deriving DecidableEq, Repr, Hashable, Inhabited

namespace Lifetime

/-- Every lifetime, in the order in which the markers are defined. -/
def all : List Lifetime := [transient, perScope, singleton]

/-- The marker that gives a class this lifetime. -/
def markerName : Lifetime → String
  | transient => "TransientService"
  | perScope => "ScopedService"
  | singleton => "SingletonService"

def ofMarkerName? (name : String) : Option Lifetime := all.find? (·.markerName = name)

/-- Registering the service builds it at once. -/
def isEager : Lifetime → Bool
  | singleton => true
  | transient | perScope => false

/-- A name is the marker of one lifetime at most. -/
theorem ofMarkerName?_eq_some_iff {name : String} {lifetime : Lifetime} :
    ofMarkerName? name = some lifetime ↔ lifetime.markerName = name := by
  constructor
  · intro h
    simpa using List.find?_some h
  · rintro rfl
    cases lifetime <;> simp [ofMarkerName?, all, markerName]

end Lifetime

end Registrar
