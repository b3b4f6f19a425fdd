/-!
# Tokens

A token is a flag that is raised once and stays up: whoever holds it can cancel, and whoever watches
it learns of the cancellation. `Tokens` are all flags of a state.
-/

namespace Supervision

/-- The name of a flag. -/
structure Token where
  id : Nat
deriving DecidableEq, Repr, Inhabited

/-- The flags handed out so far, and those that are up. -/
structure Tokens where
  issued : Nat := 0
  cancelled : List Token := []
deriving Repr, Inhabited

namespace Tokens

/-- The flag is up. -/
def isCancelled (ts : Tokens) (t : Token) : Bool :=
  ts.cancelled.contains t

/-- A flag that nobody has, not yet up. -/
def fresh (ts : Tokens) : Token × Tokens :=
  (⟨ts.issued⟩, { ts with issued := ts.issued + 1 })

/-- Raises a flag. -/
def cancel (ts : Tokens) (t : Token) : Tokens :=
  if ts.isCancelled t then ts else { ts with cancelled := t :: ts.cancelled }

end Tokens

end Supervision
