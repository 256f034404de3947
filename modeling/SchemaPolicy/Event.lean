import SchemaPolicy.Collection.Basic
import SchemaPolicy.Project.Source
import SchemaPolicy.Text.Terminal

/-! Events: what a run reports while it works, apart from its result. -/

namespace SchemaPolicy

/-- How much an event matters; the levels ascend. -/
inductive Level where
  | trace
  | debug
  | info
  | warn
  | error
deriving DecidableEq, Repr

/-- The place of a level in the order of the levels. -/
def Level.rank : Level → Nat
  | trace => 0
  | debug => 1
  | info => 2
  | warn => 3
  | error => 4

/-- The level as log lines write it. -/
def Level.label : Level → String
  | trace => "TRACE"
  | debug => "DEBUG"
  | info => "INFO"
  | warn => "WARN"
  | error => "ERROR"

/-- What a run can report. -/
inductive Event where
  | configured (source : Source)
  | declared (descriptor : Descriptor)
  | repeatedName (name : String)
  | composing (collections extraRules : Nat)
  | generating (collections extraRules : Nat)
  | wrote (path : Path)
deriving DecidableEq, Repr

namespace Event

/-- The level of an event. A user's own configuration is worth more attention than others, since it
lies outside the project. -/
def level : Event → Level
  | configured (.user _) => .info
  | configured _ => .debug
  | declared _ => .debug
  | repeatedName _ => .warn
  | composing .. => .debug
  | generating .. => .info
  | wrote _ => .info

/-- The event in words. -/
def message : Event → String
  | configured source => s!"Using {source.phrase}"
  | declared d =>
    s!"Collection `{d.name}` ({d.protection.pattern.spelling}) from type {d.typeName}"
  | repeatedName name =>
    s!"Collection name `{name}` is declared more than once; access is granted if any of its " ++
      "match blocks allows it"
  | composing collections extraRules =>
    s!"Composing {collections} collection(s) and {extraRules} extra rule(s)"
  | generating collections extraRules =>
    s!"Generating rules for {collections} collection(s) with {extraRules} extra rule(s)"
  | wrote path => s!"Wrote {path.text}"

/-- The part of the program that reports the event, by the name that log filters use. -/
def target : Event → String
  | configured _ => "tenant_rules::project"
  | declared _ => "tenant_rules_core::schema"
  | repeatedName _ => "tenant_rules_core::schema"
  | composing .. => "tenant_rules_core::composer"
  | generating .. => "tenant_rules::project"
  | wrote _ => "tenant_rules::commands::generate"

/-- The fields of an event that a log filter can ask for. -/
def fields (_ : Event) : List String := ["message"]

/-- The event as a line of text. -/
def line (event : Event) : String := event.level.label ++ " " ++ event.message

/-- The event as a log line, in which no character commands the terminal. -/
def logged (event : Event) : String :=
  event.level.label ++ " " ++ Text.terminalSafe event.message

end Event

end SchemaPolicy
