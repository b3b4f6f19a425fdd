import Supervision.Config.Schema
import Supervision.Logging.Directive

/-!
# Log filters

A filter is a list of directives with commas between them. Its verbosity is the most verbose level
that it may let through. The filter of the process environment wins over the configured level,
unless one of its directives cannot be read.
-/

namespace Supervision.Logging

/-- The parts of a text between commas, without empty ones. -/
def directiveTexts (text : String) : List (List Char) :=
  (Text.splitAll ',' text.toList).filter fun part => !part.isEmpty

/-- The most verbose level that some directives may let through: nothing, where there are none. -/
def reach (directives : List Directive) : Level :=
  (directives.map Directive.reach).foldl Level.max .off

/-- The verbosity of a filter, if all of its directives can be read. -/
def verbosity? (text : String) : Option Level :=
  ((directiveTexts text).mapM Directive.ofText?).map reach

/-- The verbosity of a filter without the directives that cannot be read; errors alone, where none
can be. -/
def verbosity (text : String) : Level :=
  match (directiveTexts text).filterMap Directive.ofText? with
  | [] => .error
  | directives => reach directives

/-- The filter of a configuration: its level, for the service, for its HTTP layer and for the
rest. -/
def configuredFilter (c : ObservabilityConfig) : String :=
  let level := c.logLevel.toLower
  "service_lifecycle=" ++ level ++ ",tower_http=" ++ level ++ "," ++ level

/-- The most verbose level of a log, from the filter of the environment, if it is set and can be
read, and else from the configuration. -/
def effectiveLevel (environmentFilter : Option String) (c : ObservabilityConfig) : Level :=
  match environmentFilter.bind verbosity? with
  | some level => level
  | none => verbosity (configuredFilter c)

end Supervision.Logging
