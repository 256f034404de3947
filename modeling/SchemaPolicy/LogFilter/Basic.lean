import SchemaPolicy.Environment
import SchemaPolicy.LogFilter.Directive

/-! Which events are logged: for parts of the program, the least level that is let through. -/

namespace SchemaPolicy

/-- A log filter is a list of directives, of which the most telling one about an event decides. -/
abbrev LogFilter := List LogDirective

namespace LogFilter

/-- The filter that lets through all events from a level on. -/
def atLeast (level : Level) : LogFilter := [{ least? := some level }]

/-- The filter that a specification stands for: its directives, between commas. Without any, only
errors are logged. -/
def ofSpec (spec : String) : Except LogDirective.Fault LogFilter := do
  match ← ((spec.splitOn ",").filter (· ≠ "")).mapM LogDirective.ofWord with
  | [] => return atLeast .error
  | directives => return directives

/-- The filter of a run: all but the finest events if it is to be verbose; else what the
environment says, if that is well formed; else what matters to a user. There is none if a character
of the specification would be broken. -/
def choose? (environment : Environment) (verbose : Bool) : Option LogFilter :=
  if verbose then some (atLeast .debug)
  else
    match environment.logSpec?.map ofSpec with
    | some (.ok filter) => some filter
    | some (.error .brokenCharacter) => none
    | some (.error .malformed) | none => some (atLeast .info)

/-- The more telling of two directives, and of equals the later. -/
def prefer (best? : Option LogDirective) (directive : LogDirective) : Option LogDirective :=
  match best? with
  | none => some directive
  | some best => if best.weight ≤ directive.weight then some directive else some best

/-- Whether an event is logged: the most telling directive about it decides. -/
def admits (filter : LogFilter) (event : Event) : Bool :=
  ((filter.filter (·.covers event)).foldl prefer none).any (·.admits event.level)

end LogFilter

end SchemaPolicy
