import Supervision.Journal

/-!
# Health checks by name

Checks of the two sides, each under a name. A map is kept in ascending order of its names, which is
the order of their bytes; a name that is used again replaces its check. A check without a name is
passed over.
-/

namespace Supervision

/-- What can be called: a callback that somebody has registered, or none, which succeeds at once. -/
abbrev Callback (κ : Type) := Option κ

/-- A map from names, in ascending order of the names. -/
abbrev NameMap (α : Type) := List (String × α)

namespace NameMap

variable {α : Type}

/-- Puts a value under a name, in place of the one that is there. -/
def insert (name : String) (value : α) : NameMap α → NameMap α
  | [] => [(name, value)]
  | (other, v) :: rest =>
    if name < other then (name, value) :: (other, v) :: rest
    else if name = other then (name, value) :: rest
    else (other, v) :: insert name value rest

/-- The value under a name. -/
def get? (name : String) (m : NameMap α) : Option α :=
  m.lookup name

end NameMap

/-- The checks of both sides. -/
structure HealthChecks (κ : Type) where
  liveness : NameMap (Callback κ) := []
  readiness : NameMap (Callback κ) := []

namespace HealthChecks

variable {κ : Type}

/-- The checks of one side. -/
def side (hs : HealthChecks κ) : HealthSide → NameMap (Callback κ)
  | .liveness => hs.liveness
  | .readiness => hs.readiness

/-- Puts a check under a name, which may be empty. -/
def add (hs : HealthChecks κ) (side : HealthSide) (name : String) (check : Callback κ) :
    HealthChecks κ :=
  match side with
  | .liveness => { hs with liveness := NameMap.insert name check hs.liveness }
  | .readiness => { hs with readiness := NameMap.insert name check hs.readiness }

/-- Registers a check. One without a name changes nothing. -/
def register (hs : HealthChecks κ) (side : HealthSide) (name : String) (check : Callback κ) :
    HealthChecks κ :=
  if name.isEmpty then hs else hs.add side name check

/-- Registers all checks of one side. -/
def registerSide (hs : HealthChecks κ) (side : HealthSide) (checks : NameMap (Callback κ)) :
    HealthChecks κ :=
  checks.foldl (fun hs (name, check) => hs.register side name check) hs

/-- Registers all checks that somebody reports. -/
def registerAll (hs : HealthChecks κ) (reported : HealthChecks κ) : HealthChecks κ :=
  (hs.registerSide .liveness reported.liveness).registerSide .readiness reported.readiness

/-- The checks of one side that have no name. -/
def nameless (checks : NameMap (Callback κ)) : List Record :=
  (checks.filter fun c => c.1.isEmpty).map fun _ => .namelessCheck

/-- The records of the reported checks that are passed over. -/
def passedOver (reported : HealthChecks κ) : List Record :=
  nameless reported.liveness ++ nameless reported.readiness

end HealthChecks

end Supervision
