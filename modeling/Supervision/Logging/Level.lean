/-!
# Log levels

How verbose a log is, from silent to tracing.
-/

namespace Supervision.Logging

/-- A bound on the verbosity of a log. -/
inductive Level where
  | off
  | error
  | warn
  | info
  | debug
  | trace
deriving DecidableEq, Repr, Inhabited

namespace Level

/-- All levels, the quietest first. -/
def all : List Level := [off, error, warn, info, debug, trace]

/-- The place of a level among all. -/
def rank : Level → Nat
  | off => 0
  | error => 1
  | warn => 2
  | info => 3
  | debug => 4
  | trace => 5

/-- The more verbose of two levels. -/
def max (a b : Level) : Level :=
  if a.rank < b.rank then b else a

/-- The name of a level. -/
def name : Level → String
  | off => "off"
  | error => "error"
  | warn => "warn"
  | info => "info"
  | debug => "debug"
  | trace => "trace"

/-- The level of a name in any letter case. -/
def ofName? (text : List Char) : Option Level :=
  all.find? fun l => l.name.toList = text.map Char.toLower

end Level

end Supervision.Logging
